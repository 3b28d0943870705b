import ControlPlane.Tenant.BackupService

/-!
# What the cleanup of backups keeps

A manifest expires by a table of plan names, whatever `backup_retention_days` the tenant's plan has, and the cleanup
removes the file an expired manifest names, whoever else names it.
-/

namespace ControlPlane

/-- `backup_retention_days` of the tenant's plan; the column is a function on the plans' rows. -/
def Db.retentionDays (db : Db) (backupRetentionDays : Plan → Nat) (tenantId : Nat) : Option Nat :=
  ((db.subscriptionOf tenantId).bind db.planOf).map backupRetentionDays

/-- The cleanup can be done with the manifest's file: there is none, or the system lets it be removed. -/
def ManifestRow.removable (refusal : String → Option String) (files : List String) (m : ManifestRow) : Bool :=
  m.filePath = "" ∨ m.filePath ∉ files ∨ refusal m.filePath = none

/-- A file that goes when the manifests are cleaned up. -/
def Removed (refusal : String → Option String) (manifests : List ManifestRow) (path : String) : Prop :=
  path ≠ "" ∧ refusal path = none ∧ ∃ m ∈ manifests, m.filePath = path

/-- The cleanup keeps every unexpired backup: it removes a manifest when the retention of its tenant's plan is over, no
file that an unexpired manifest names, and counts what it scanned. -/
structure KeepsUnexpired (retention : Nat → Option Nat) (refusal : String → Option String) (idText : Nat → String)
    (commitFails : Bool) (now : Time) (rows : List ManifestRow) (files : List String) : Prop where
  retained : ∀ m ∈ rows, m ∉ (cleanupExpiredBackups refusal idText commitFails now rows files).2.1 →
    ∀ d ∈ retention m.tenantId, m.createdAt + days d ≤ now
  named : ∀ m ∈ rows, now < m.expiresAt → m.filePath ∈ files →
    m.filePath ∈ (cleanupExpiredBackups refusal idText commitFails now rows files).2.2
  counted : ∀ result, (cleanupExpiredBackups refusal idText commitFails now rows files).1 = .ok result →
    result.scanned = result.deletedRows + result.errors.length

section Loop
variable {refusal : String → Option String} {idText : Nat → String}

/-! ### One manifest -/

theorem cleanupManifest_files (c : Cleanup) (m : ManifestRow) (path : String) :
    path ∈ (cleanupManifest refusal idText c m).files ↔ path ∈ c.files ∧ ¬Removed refusal [m] path := by
  unfold cleanupManifest Removed
  dsimp only
  split
  · rename_i hempty
    refine ⟨fun h => ⟨h, ?_⟩, fun h => h.1⟩
    rintro ⟨hne, -, m', hm', rfl⟩
    obtain rfl := List.mem_singleton.1 hm'
    exact hne hempty
  · rename_i hpath
    split
    · rename_i hmissing
      refine ⟨fun h => ⟨h, ?_⟩, fun h => h.1⟩
      rintro ⟨-, -, m', hm', rfl⟩
      obtain rfl := List.mem_singleton.1 hm'
      exact hmissing h
    · split
      · rename_i hallowed
        simp only [List.mem_filter, decide_eq_true_eq, List.mem_singleton, exists_eq_left]
        constructor
        · rintro ⟨hmem, hne⟩
          exact ⟨hmem, fun h => hne h.2.2.symm⟩
        · rintro ⟨hmem, hkept⟩
          refine ⟨hmem, ?_⟩
          rintro rfl
          exact hkept ⟨hpath, hallowed, rfl⟩
      · rename_i text hrefused
        refine ⟨fun h => ⟨h, ?_⟩, fun h => h.1⟩
        rintro ⟨-, hallowed, m', hm', rfl⟩
        obtain rfl := List.mem_singleton.1 hm'
        rw [hrefused] at hallowed
        cases hallowed

theorem cleanupManifest_deleted (c : Cleanup) (m : ManifestRow) :
    (cleanupManifest refusal idText c m).deleted = c.deleted ++ if m.removable refusal c.files then [m.id] else [] := by
  unfold cleanupManifest ManifestRow.removable
  dsimp only
  split
  · rename_i hempty
    rw [decide_eq_true (Or.inl hempty), if_pos rfl]
  · rename_i hpath
    split
    · rename_i hmissing
      rw [decide_eq_true (Or.inr (Or.inl hmissing)), if_pos rfl]
    · rename_i hthere
      split
      · rename_i hallowed
        rw [decide_eq_true (Or.inr (Or.inr hallowed)), if_pos rfl]
      · rename_i text hrefused
        rw [decide_eq_false (by simp [hpath, not_not.1 hthere, hrefused]), if_neg Bool.false_ne_true, List.append_nil]

/-- Every manifest scanned has lost its row or left an error. -/
def Cleanup.Balanced (c : Cleanup) : Prop :=
  c.result.scanned = c.result.deletedRows + c.result.errors.length ∧ c.result.deletedRows = c.deleted.length

theorem Cleanup.Balanced.manifest {c : Cleanup} (h : c.Balanced) (m : ManifestRow) :
    (cleanupManifest refusal idText c m).Balanced := by
  obtain ⟨hscanned, hrows⟩ := h
  unfold cleanupManifest Cleanup.Balanced
  dsimp only
  split
  · constructor <;> simp <;> omega
  · split
    · constructor <;> simp <;> omega
    · split <;> constructor <;> simp <;> omega

/-! ### The loop -/

/-- A file that has gone is one that can be removed, so no manifest is removable only because of it. -/
theorem removable_congr {files files' : List String} {manifests : List ManifestRow}
    (h : ∀ path, path ∈ files' ↔ path ∈ files ∧ ¬Removed refusal manifests path) (m : ManifestRow) :
    m.removable refusal files' = m.removable refusal files := by
  unfold ManifestRow.removable
  refine decide_eq_decide.2 (or_congr_right ?_)
  rw [h]
  constructor
  · rintro (hgone | hallowed)
    · by_cases hmem : m.filePath ∈ files
      · exact Or.inr (not_not.1 fun hrefused => hgone ⟨hmem, fun hremoved => hrefused hremoved.2.1⟩)
      · exact Or.inl hmem
    · exact Or.inr hallowed
  · rintro (hmissing | hallowed)
    · exact Or.inl fun h => hmissing h.1
    · exact Or.inr hallowed

theorem foldl_cleanup (manifests : List ManifestRow) (c : Cleanup) (hc : c.Balanced) :
    (∀ path, path ∈ (manifests.foldl (cleanupManifest refusal idText) c).files ↔
        path ∈ c.files ∧ ¬Removed refusal manifests path) ∧
      (manifests.foldl (cleanupManifest refusal idText) c).deleted =
        c.deleted ++ (manifests.filter (ManifestRow.removable refusal c.files)).map (fun m => m.id) ∧
      (manifests.foldl (cleanupManifest refusal idText) c).Balanced := by
  induction manifests generalizing c with
  | nil =>
    refine ⟨fun path => ?_, (List.append_nil _).symm, hc⟩
    simp [Removed]
  | cons m manifests ih =>
    rw [List.foldl_cons]
    obtain ⟨hfiles, hdeleted, hbalanced⟩ := ih (cleanupManifest refusal idText c m) (hc.manifest m)
    refine ⟨fun path => ?_, ?_, hbalanced⟩
    · rw [hfiles, cleanupManifest_files, and_assoc]
      refine and_congr_right fun _ => ?_
      rw [← not_or]
      refine not_congr ⟨?_, ?_⟩
      · rintro (⟨hne, hallowed, m', hm', hpath⟩ | ⟨hne, hallowed, m', hm', hpath⟩)
        · exact ⟨hne, hallowed, m', by simp [List.mem_singleton.1 hm'], hpath⟩
        · exact ⟨hne, hallowed, m', List.mem_cons_of_mem m hm', hpath⟩
      · rintro ⟨hne, hallowed, m', hm', hpath⟩
        rcases List.mem_cons.1 hm' with rfl | hlater
        · exact Or.inl ⟨hne, hallowed, m', List.mem_singleton_self m', hpath⟩
        · exact Or.inr ⟨hne, hallowed, m', hlater, hpath⟩
    · have hsame : ManifestRow.removable refusal (cleanupManifest refusal idText c m).files =
          ManifestRow.removable refusal c.files :=
        funext fun m' => removable_congr (fun path => cleanupManifest_files c m path) m'
      rw [hdeleted, hsame, cleanupManifest_deleted, List.filter_cons, List.append_assoc]
      split <;> rfl

end Loop

section Cleanup
variable {refusal : String → Option String} {idText : Nat → String} {commitFails : Bool} {now : Time}
  {rows : List ManifestRow} {files : List String}

theorem mem_expiredManifests {m : ManifestRow} : m ∈ expiredManifests rows now ↔ m ∈ rows ∧ m.expiresAt ≤ now := by
  unfold expiredManifests
  rw [List.mem_insertionSort, List.mem_filter, decide_eq_true_eq]

/-- The files that are left. -/
theorem mem_files_left {path : String} :
    path ∈ (cleanupExpiredBackups refusal idText commitFails now rows files).2.2 ↔
      path ∈ files ∧ ¬Removed refusal (expiredManifests rows now) path := by
  obtain ⟨hfiles, -, -⟩ :=
    @foldl_cleanup refusal idText (expiredManifests rows now) ⟨files, [], ⟨0, 0, 0, 0, []⟩⟩ ⟨rfl, rfl⟩
  rw [← hfiles path]
  unfold cleanupExpiredBackups
  dsimp only
  split
  · rfl
  · split <;> rfl

/-- The rows that are left. -/
theorem mem_rows_left {m : ManifestRow} (hids : (rows.map fun m => m.id).Nodup) (hm : m ∈ rows) :
    m ∈ (cleanupExpiredBackups refusal idText commitFails now rows files).2.1 ↔
      ¬(m.expiresAt ≤ now ∧ m.removable refusal files = true ∧ commitFails = false) := by
  obtain ⟨-, hdeleted, -, hrows⟩ :=
    @foldl_cleanup refusal idText (expiredManifests rows now) ⟨files, [], ⟨0, 0, 0, 0, []⟩⟩ ⟨rfl, rfl⟩
  rw [List.nil_append] at hdeleted
  have hmem : m.id ∈ ((expiredManifests rows now).foldl (cleanupManifest refusal idText)
      ⟨files, [], ⟨0, 0, 0, 0, []⟩⟩).deleted ↔ m.expiresAt ≤ now ∧ m.removable refusal files = true := by
    rw [hdeleted, List.mem_map]
    constructor
    · rintro ⟨m', hm', hid⟩
      obtain ⟨hexpired, hremovable⟩ := List.mem_filter.1 hm'
      obtain ⟨hrow, hdue⟩ := mem_expiredManifests.1 hexpired
      obtain rfl : m' = m := List.inj_on_of_nodup_map hids hrow hm hid
      exact ⟨hdue, hremovable⟩
    · rintro ⟨hdue, hremovable⟩
      exact ⟨m, List.mem_filter.2 ⟨mem_expiredManifests.2 ⟨hm, hdue⟩, hremovable⟩, rfl⟩
  unfold cleanupExpiredBackups
  dsimp only
  split
  · rename_i hnone
    -- no row was deleted, so this one was not
    rw [hrows, List.length_eq_zero_iff] at hnone
    rw [hnone] at hmem
    refine iff_of_true hm fun h => ?_
    exact absurd (hmem.2 ⟨h.1, h.2.1⟩) List.not_mem_nil
  · split
    · rename_i hfails
      exact iff_of_true hm fun h => by simp [hfails] at h
    · rename_i hcommits
      rw [List.mem_filter, decide_eq_true_eq, hmem]
      simp [hm, hcommits]

theorem cleanup_counts {result : BackupCleanupResult}
    (h : (cleanupExpiredBackups refusal idText commitFails now rows files).1 = .ok result) :
    result.scanned = result.deletedRows + result.errors.length := by
  obtain ⟨-, -, hscanned, -⟩ :=
    @foldl_cleanup refusal idText (expiredManifests rows now) ⟨files, [], ⟨0, 0, 0, 0, []⟩⟩ ⟨rfl, rfl⟩
  unfold cleanupExpiredBackups at h
  dsimp only at h
  split at h
  · cases h
    exact hscanned
  · split at h
    · cases h
    · cases h
      exact hscanned

end Cleanup

/-- The cleanup keeps every unexpired backup exactly when an expired manifest that it can remove is past the retention of
its tenant's plan, and no file that can be removed is named by an expired and by an unexpired manifest. -/
theorem cleanup_keeps_iff (db : Db) (backupRetentionDays : Plan → Nat) (refusal : String → Option String)
    (idText : Nat → String) (commitFails : Bool) (now : Time) {rows : List ManifestRow} (files : List String)
    (hids : (rows.map fun m => m.id).Nodup) :
    KeepsUnexpired (db.retentionDays backupRetentionDays) refusal idText commitFails now rows files ↔
      (∀ m ∈ rows, m.expiresAt ≤ now → m.removable refusal files = true → commitFails = false →
        ∀ d ∈ db.retentionDays backupRetentionDays m.tenantId, m.createdAt + days d ≤ now) ∧
      ∀ m ∈ rows, ∀ expired ∈ rows, now < m.expiresAt → expired.expiresAt ≤ now → expired.filePath = m.filePath →
        m.filePath ∈ files → m.filePath ≠ "" → refusal m.filePath ≠ none := by
  constructor
  · intro h
    refine ⟨fun m hm hdue hremovable hcommits => h.retained m hm fun hleft => ?_, ?_⟩
    · exact (mem_rows_left hids hm).1 hleft ⟨hdue, hremovable, hcommits⟩
    · intro m hm expired hexpired hkept hdue hpath hfile hne hallowed
      have hleft := h.named m hm hkept hfile
      exact (mem_files_left.1 hleft).2
        ⟨hne, hallowed, expired, mem_expiredManifests.2 ⟨hexpired, hdue⟩, hpath⟩
  · rintro ⟨hretained, hnamed⟩
    refine ⟨fun m hm hgone => ?_, fun m hm hkept hfile => ?_, fun result hresult => cleanup_counts hresult⟩
    · rw [mem_rows_left hids hm, not_not] at hgone
      exact hretained m hm hgone.1 hgone.2.1 hgone.2.2
    · refine mem_files_left.2 ⟨hfile, ?_⟩
      rintro ⟨hne, hallowed, expired, hexpired, hpath⟩
      obtain ⟨hrow, hdue⟩ := mem_expiredManifests.1 hexpired
      exact hnamed m hm expired hrow hkept hdue hpath hfile hne hallowed

namespace Small

/-- A tenant on a plan of its own. -/
def growing : Db :=
  { Db.empty with
    plans := [⟨1, "growth", true, "pooled", "daily", []⟩]
    subscriptions := [⟨1, 1, 1, .active, none, none, none, none, none, none, none⟩] }

/-- A manifest as it is kept for the tenant: the plan is not in the table. -/
def manifest (id : Nat) (createdAt : Time) : ManifestRow where
  id := id
  tenantId := 1
  jobId := id
  filePath := "/backups/a.sql.gz"
  createdAt := createdAt
  fileSizeBytes := 1
  expiresAt := createdAt + days (retentionDaysForPlan "growth")
  s3Key := none

end Small

/-- With a retention of sixty days a backup goes after eight; and with one of seven, a new backup loses its file to an
old manifest that names it too. -/
theorem unexpired_backups_lost :
    ¬KeepsUnexpired (Small.growing.retentionDays fun _ => 60) (fun _ => none) toString false (days 8)
      [Small.manifest 1 0] ["/backups/a.sql.gz"] ∧
    ¬KeepsUnexpired (Small.growing.retentionDays fun _ => 7) (fun _ => none) toString false (days 8)
      [Small.manifest 1 0, Small.manifest 2 (days 7)] ["/backups/a.sql.gz"] := by
  constructor
  · intro h
    have hover := h.retained (Small.manifest 1 0) List.mem_cons_self (by decide +kernel) 60 (by decide)
    revert hover
    decide
  · intro h
    have hkept := h.named (Small.manifest 2 (days 7)) (by simp) (by decide) (by decide)
    revert hkept
    decide +kernel

/-- An old backup with a file of its own, and an old and a new one that share a file. -/
def Small.manifests : List ManifestRow :=
  [{ Small.manifest 1 0 with filePath := "/backups/b.sql.gz" }, Small.manifest 2 0, Small.manifest 3 (days 7)]

/-- With a retention of seven days the first goes and that is right.  The shared file may not be removed, so that the other
two stay. -/
theorem old_backup_goes :
    KeepsUnexpired (Small.growing.retentionDays fun _ => 7)
      (fun path => if path = "/backups/a.sql.gz" then some "Permission denied" else none) toString false (days 8)
      Small.manifests ["/backups/a.sql.gz", "/backups/b.sql.gz"] :=
  (cleanup_keeps_iff Small.growing (fun _ => 7)
    (fun path => if path = "/backups/a.sql.gz" then some "Permission denied" else none) toString false (days 8)
    ["/backups/a.sql.gz", "/backups/b.sql.gz"] (by decide)).2 ⟨by decide, by decide⟩

end ControlPlane
