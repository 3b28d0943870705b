import ControlPlane.Base.Patterns
import ControlPlane.Models
import Mathlib.Data.List.MinMax
import Mathlib.Data.List.Sort

/-!
# Backups

How the path of a backup is found in the output of the bench, the manifest that is kept of it, and the cleanup of expired
manifests.  Python's Unicode tables and its reading of numbers are a parameter, and so is the file system.
-/

namespace ControlPlane

open Patterns Patterns.Matcher

/-- `RETENTION_DAYS_BY_PLAN`. -/
def retentionDaysByPlan : List (String × Nat) := [("starter", 7), ("business", 30), ("enterprise", 90)]

def retentionDaysForPlan (plan : String) : Nat :=
  ((retentionDaysByPlan.lookup plan).or (retentionDaysByPlan.lookup "starter")).getD 0

/-- Python's text functions: the character classes `\d`, `\s` and `\w`, `str.lower`, `int(text)`, and
`int(float(text) * multiplier)`.  A text is the list of its characters. -/
structure PythonText where
  isDigit : Char → Bool
  isSpace : Char → Bool
  isWord : Char → Bool
  lower : List Char → List Char
  int : List Char → Except PyError Nat
  scaled : List Char → Nat → Except PyError Nat

/-! ### Patterns that ignore case -/

/-- The characters that stand for a letter in lower case, or for a sign, when case is ignored. -/
def sameLetter (letter c : Char) : Bool :=
  c.toLower == letter || (letter == 's' && c == 'ſ') || (letter == 'k' && c == 'K') ||
    (letter == 'i' && (c == 'İ' || c == 'ı'))

/-- The letters, digits and signs of a path. -/
def isPathChar (c : Char) : Bool :=
  c.isAlphanum || c == '_' || c == '.' || c == '/' || c == '-' || c == 'İ' || c == 'ı' || c == 'ſ' || c == 'K'

def word (text : String) : Matcher Unit := literal sameLetter text.toList

/-- `sql(?:\.gz)?|tgz|tar|json|gz`. -/
def backupExtension : Matcher Unit :=
  alt (do word "sql"; optional (word ".gz")) (alt (word "tgz") (alt (word "tar") (alt (word "json") (word "gz"))))

/-- `_BACKUP_PATH_REGEX`. -/
def backupPathRegex : Matcher (List Char) := capture do
  optional (alt (word "/") (do word "."; optional (word "."); word "/"))
  many1 isPathChar
  word "."
  backupExtension

/-- `_BYTES_REGEX`: the number. -/
def bytesRegex (python : PythonText) : Matcher (List Char) := do
  let value ← capture (many1 python.isDigit)
  many python.isSpace
  word "byte"
  optional (word "s")
  boundary python.isWord
  return value

/-- `_SIZE_REGEX`: the number and the unit. -/
def sizeRegex (python : PythonText) : Matcher (List Char × List Char) := do
  let value ← capture do
    many1 python.isDigit
    optional do
      word "."
      many1 python.isDigit
  many python.isSpace
  let unit ← capture do
    optional (one fun c => sameLetter 'k' c || sameLetter 'm' c || sameLetter 'g' c || sameLetter 't' c)
    optional (word "i")
    word "b"
  boundary python.isWord
  return (value, unit)

/-! ### The path of a backup -/

/-- `unit.upper()`. -/
def upperUnit (unit : List Char) : List Char := unit.map fun c => if c = 'ı' then 'I' else c.toUpper

/-- `multipliers.get(unit, 1)`. -/
def multiplierOf (unit : List Char) : Nat :=
  (([("B", 1), ("KB", 1024), ("MB", 1024 ^ 2), ("GB", 1024 ^ 3), ("TB", 1024 ^ 4), ("KIB", 1024), ("MIB", 1024 ^ 2),
    ("GIB", 1024 ^ 3), ("TIB", 1024 ^ 4)] : List (String × Nat)).lookup (String.ofList unit)).getD 1

/-- `_parse_size_bytes`. -/
def parseSizeBytes (python : PythonText) (line : List Char) : Except PyError (Option Nat) :=
  match (bytesRegex python).search line with
  | some value => (python.int value).map some
  | none =>
    match (sizeRegex python).search line with
    | some (value, unit) =>
      (python.scaled value (multiplierOf (upperUnit unit))).map some
    | none => .ok none

/-- The characters at which `str.splitlines` breaks a text. -/
def isLineBreak (c : Char) : Bool :=
  c.toNat ∈ [0x0a, 0x0b, 0x0c, 0x0d, 0x1c, 0x1d, 0x1e, 0x85, 0x2028, 0x2029]

/-- `splitlines` with the part of the line that has been read, in reverse. -/
def splitlinesFrom (line : List Char) : List Char → List (List Char)
  | [] => if line.isEmpty then [] else [line.reverse]
  | '\r' :: '\n' :: rest => line.reverse :: splitlinesFrom [] rest
  | c :: rest =>
    if isLineBreak c then line.reverse :: splitlinesFrom [] rest else splitlinesFrom (c :: line) rest

def splitlines (text : String) : List (List Char) := splitlinesFrom [] text.toList

/-- A path found in a line, with the size the line names. -/
structure BackupCandidate where
  line : List Char
  path : List Char
  size : Option Nat
  deriving DecidableEq, Repr

/-- `path.endswith(".sql.gz")`. -/
def isDatabaseDump (path : List Char) : Bool := decide (".sql.gz".toList <:+ path)

/-- `text in line.lower()`. -/
def mentions (python : PythonText) (text : String) (line : List Char) : Bool :=
  decide (text.toList <:+: python.lower line)

/-- `_candidate_score`. -/
def candidateScore (python : PythonText) (candidate : BackupCandidate) : Nat :=
  (if isDatabaseDump candidate.path ∨ mentions python "database" candidate.line then 100 else 0) +
    (if mentions python "backup" candidate.line then 20 else 0) +
    (if candidate.path.head? = some '/' then 5 else 0) +
    (if candidate.size.isSome then 3 else 0)

/-- The candidates of a line. -/
def lineCandidates (python : PythonText) (line : List Char) : Except PyError (List BackupCandidate) := do
  let size ← parseSizeBytes python line
  return (backupPathRegex.findAll line).map fun path => ⟨line, path, size⟩

def backupCandidates (python : PythonText) (stdout : String) : Except PyError (List BackupCandidate) := do
  let found ← (splitlines stdout).mapM (lineCandidates python)
  return found.flatten

/-- The candidate of the highest score, the first of them if there are several. -/
def selectCandidate (python : PythonText) (stdout : String) : Except PyError (Option BackupCandidate) := do
  let candidates ← backupCandidates python stdout
  return candidates.argmax (candidateScore python)

structure ParsedBackupArtifact where
  filePath : String
  fileSizeBytes : Nat
  deriving DecidableEq, Repr

/-- What is asked of the file system: a path made absolute, and the size of a file that is there. -/
structure FileSystem where
  normalizePath : String → String
  size : String → Option Nat

def parseBackupArtifact (python : PythonText) (files : FileSystem) (stdout : String) :
    Except PyError (Option ParsedBackupArtifact) := do
  let selected ← selectCandidate python stdout
  return selected.map fun candidate =>
    let normalizedPath := files.normalizePath (String.ofList candidate.path)
    ⟨normalizedPath, (candidate.size.or (files.size normalizedPath)).getD 0⟩

/-! ### Manifests -/

/-- A row of `backup_manifests`. -/
structure ManifestRow extends BackupManifest where
  fileSizeBytes : Nat
  expiresAt : Time
  s3Key : Option String
  deriving DecidableEq, Repr

/-- The settings of backups: whether the bench is a mock, the upload to the bucket if one is configured, and whether a
failed upload fails the backup. -/
structure BackupSettings where
  benchIsMock : Bool
  uploadToS3 : Option (String → Time → Except PyError String)
  s3Strict : Bool
  idText : Nat → String

/-- `_mock_backup_artifact`. -/
def mockBackupArtifact (settings : BackupSettings) (tenant : Tenant) (jobId : Nat) (stdout : String) :
    ParsedBackupArtifact :=
  ⟨"/tmp/mock-backups/" ++ tenant.subdomain ++ "-" ++ settings.idText jobId ++ ".sql.gz", stdout.utf8ByteSize⟩

/-- `persist_backup_manifest`: the row that it adds. -/
def persistBackupManifest (python : PythonText) (files : FileSystem) (settings : BackupSettings) (id jobId : Nat)
    (tenant : Tenant) (plan : String) (benchStdout : String) (createdAt : Time) : Except PyError ManifestRow := do
  let parsed ← parseBackupArtifact python files benchStdout
  let artifact ← match parsed with
    | some artifact => pure artifact
    | none =>
      if settings.benchIsMock then pure (mockBackupArtifact settings tenant jobId benchStdout)
      else .error (.valueError "Backup completed but artifact path could not be parsed from bench output")
  let s3Key ← match settings.uploadToS3 with
    | none => pure none
    | some upload =>
      match upload artifact.filePath createdAt with
      | .ok key => pure (some key)
      | .error e => if settings.s3Strict then .error e else pure none
  return { id := id, tenantId := tenant.id, jobId := jobId, filePath := artifact.filePath, createdAt := createdAt
           fileSizeBytes := artifact.fileSizeBytes, expiresAt := createdAt + days (retentionDaysForPlan plan)
           s3Key := s3Key }

/-! ### Cleanup -/

structure BackupCleanupResult where
  scanned : Nat
  deletedFiles : Nat
  deletedRows : Nat
  skippedMissingFiles : Nat
  errors : List String
  deriving DecidableEq, Repr

/-- A cleanup under way: the files that are there, the rows deleted so far, and the result. -/
structure Cleanup where
  files : List String
  deleted : List Nat
  result : BackupCleanupResult
  deriving DecidableEq, Repr

/-- Remove the file of an expired manifest, and then its row unless the file could not be removed; `refusal` is the
text of the error with which the system refuses to remove a file that is there. -/
def cleanupManifest (refusal : String → Option String) (idText : Nat → String) (cleanup : Cleanup)
    (manifest : ManifestRow) : Cleanup :=
  let result := { cleanup.result with scanned := cleanup.result.scanned + 1 }
  let deleted := cleanup.deleted ++ [manifest.id]
  if manifest.filePath = "" then
    ⟨cleanup.files, deleted, { result with deletedRows := result.deletedRows + 1 }⟩
  else if manifest.filePath ∉ cleanup.files then
    ⟨cleanup.files, deleted, { result with
      skippedMissingFiles := result.skippedMissingFiles + 1, deletedRows := result.deletedRows + 1 }⟩
  else
    match refusal manifest.filePath with
    | none =>
      ⟨cleanup.files.filter fun path => path ≠ manifest.filePath, deleted, { result with
        deletedFiles := result.deletedFiles + 1, deletedRows := result.deletedRows + 1 }⟩
    | some text =>
      { cleanup with result := { result with errors := result.errors ++ [idText manifest.id ++ ": " ++ text] } }

/-- The manifests that have expired, the longest expired first. -/
def expiredManifests (rows : List ManifestRow) (cutoff : Time) : List ManifestRow :=
  (rows.filter fun m => m.expiresAt ≤ cutoff).insertionSort fun a b => a.expiresAt ≤ b.expiresAt

/-- `cleanup_expired_backups`: what it returns or raises, and the rows and files it leaves.  A commit that fails keeps
the rows and brings no file back. -/
def cleanupExpiredBackups (refusal : String → Option String) (idText : Nat → String) (commitFails : Bool) (now : Time)
    (rows : List ManifestRow) (files : List String) :
    Except PyError BackupCleanupResult × List ManifestRow × List String :=
  let cleanup := (expiredManifests rows now).foldl (cleanupManifest refusal idText) ⟨files, [], ⟨0, 0, 0, 0, []⟩⟩
  if cleanup.result.deletedRows = 0 then (.ok cleanup.result, rows, cleanup.files)
  else if commitFails then (.error .operationalError, rows, cleanup.files)
  else (.ok cleanup.result, rows.filter fun m => m.id ∉ cleanup.deleted, cleanup.files)

end ControlPlane
