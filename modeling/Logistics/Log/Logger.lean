import Logistics.Lib.Chunked
import Logistics.Lib.Prog
import Logistics.Log.Rotation

/-!
# Logger::log, with every call that can fail

One call of `Logger::log` down to the calls it makes of the file system, of zlib and of the
database, each of which may fail: `Outcome` has, for one call of `log`, what becomes of every one of
them.  Files are texts of bytes here; an archive is known by what it decompresses to.  An exception
is known by its `what()`.

`log` is declared `noexcept`: an exception that leaves its body ends the process (`call` is `none`).

* `compressFileGzip`          `fread` delivers up to 16384 bytes at a time, until it delivers none;
* `archive_complete_iff`      **an archive is complete exactly if no read ends early**;
* `call_ends`                 a call of `log` ends the process, or leaves its row;
* `logging_survives_iff`      **a run of log calls goes through if no call ends it**.
-/

namespace Logistics
open Runs Chunked

namespace Logger

/-! ## compressing -/

def bufferChunkSize : Nat := 16384

theorem bufferChunkSize_pos : 0 < bufferChunkSize := by decide

/-- what becomes of the calls of one compression -/
structure Gzip where
  srcOpens : Bool
  destOpens : Bool
  turns : Nat → Turn
  /-- `gzclose` returned `Z_OK` -/
  closes : Bool

/-- what an archive decompresses to, if its data is complete -/
inductive Archive where
  | holds (content : Bytes)
  | damaged
  deriving DecidableEq

/-- the result, and the archive where one was written -/
def compressFileGzip (gzip : Gzip) (content : Bytes) : Bool × Option Archive :=
  if gzip.srcOpens = false then (false, none)
  else if gzip.destOpens = false then (false, none)
  else match copy bufferChunkSize gzip.turns content [] with
    | (false, _) => (false, some .damaged)
    -- neither `ferror` nor the result of `gzclose` is looked at
    | (true, written) => (true, some (if gzip.closes then .holds written else .damaged))

/-- the compression is reported as done -/
def Reported (gzip : Gzip) (content : Bytes) : Prop :=
  gzip.srcOpens = true ∧ gzip.destOpens = true ∧ WroteAll bufferChunkSize gzip.turns content

/-- the compression is reported as done, and the archive is not complete -/
def Silent (gzip : Gzip) (content : Bytes) : Prop :=
  Reported gzip content ∧ (CutShort bufferChunkSize gzip.turns content ∨ gzip.closes = false)

theorem compressFileGzip_eq {gzip : Gzip} (content : Bytes) (hsrc : gzip.srcOpens = true)
    (hdest : gzip.destOpens = true) : compressFileGzip gzip content =
      match copy bufferChunkSize gzip.turns content [] with
      | (false, _) => (false, some .damaged)
      | (true, written) => (true, some (if gzip.closes then .holds written else .damaged)) := by
  unfold compressFileGzip
  rw [hsrc, hdest]
  rfl

theorem compressFileGzip_reported_iff (gzip : Gzip) (content : Bytes) :
    (compressFileGzip gzip content).1 = true ↔ Reported gzip content := by
  unfold Reported
  cases hsrc : gzip.srcOpens with
  | false =>
    unfold compressFileGzip
    rw [if_pos hsrc]
    exact iff_of_false Bool.false_ne_true fun h => Bool.false_ne_true h.1
  | true =>
    cases hdest : gzip.destOpens with
    | false =>
      unfold compressFileGzip
      rw [if_neg (by rw [hsrc]; exact Bool.noConfusion), if_pos hdest]
      exact iff_of_false Bool.false_ne_true fun h => Bool.false_ne_true h.2.1
    | true =>
      have hcopied := copied_iff bufferChunkSize_pos gzip.turns content []
      rw [compressFileGzip_eq content hsrc hdest, ← hcopied]
      generalize copy bufferChunkSize gzip.turns content [] = r
      obtain ⟨ok, written⟩ := r
      cases ok with
      | false => exact iff_of_false Bool.false_ne_true fun h => Bool.false_ne_true h.2.2
      | true => exact iff_of_true rfl ⟨rfl, rfl, rfl⟩

theorem compressFileGzip_archive {gzip : Gzip} {content : Bytes} (h : Reported gzip content) :
    ∃ archive, (compressFileGzip gzip content).2 = some archive := by
  rw [compressFileGzip_eq content h.1 h.2.1]
  obtain ⟨ok, written⟩ := copy bufferChunkSize gzip.turns content []
  cases ok with
  | false => exact ⟨_, rfl⟩
  | true => exact ⟨_, rfl⟩

/-- **A compression that is reported as done leaves a complete archive exactly if no read ended
early and the archive was closed.** -/
theorem compressFileGzip_whole_iff {gzip : Gzip} {content : Bytes} (h : Reported gzip content) :
    (compressFileGzip gzip content).2 = some (.holds content) ↔ ¬ Silent gzip content := by
  have hsilent : ¬ Silent gzip content ↔
      ¬ CutShort bufferChunkSize gzip.turns content ∧ gzip.closes = true := by
    unfold Silent
    rw [not_and, not_or, Bool.not_eq_false]
    exact ⟨fun hno => hno h, fun hboth _ => hboth⟩
  obtain ⟨hsrc, hdest, hwrote⟩ := h
  have hcopied := (copied_iff bufferChunkSize_pos gzip.turns content []).mpr hwrote
  have hwhole := copied_whole_iff bufferChunkSize_pos hcopied
  rw [hsilent, compressFileGzip_eq content hsrc hdest, ← hwhole]
  generalize copy bufferChunkSize gzip.turns content [] = r at hcopied
  obtain ⟨ok, written⟩ := r
  cases hcopied
  cases gzip.closes with
  | false => exact iff_of_false (fun h => by cases h) fun h => Bool.false_ne_true h.2
  | true =>
    constructor
    · intro h
      cases h
      exact ⟨rfl, rfl⟩
    · rintro ⟨rfl, -⟩
      rfl

/-! ## the logger -/

/-- `logger.log_path` and `logger.max_log_size_mb` -/
structure Settings extends LogConfig where
  logPath : String

def Settings.hasParentPath (cfg : Settings) : Bool := cfg.logPath.toList.contains '/'

/-- the files, the log file's stream, the rows of the log and what was reported -/
structure State where
  current : Option Bytes
  rotated : Int → Option Bytes
  archives : Int → Option Archive
  isOpen : Bool
  fileEnabled : Bool
  rows : List LogRow
  errorStream : List String
  console : List String

/-- what becomes of the calls that one `log` makes: for each that throws, its `what()` -/
structure Outcome where
  now : Int
  fileSize : Option String
  exists? : Option String
  /-- the clock as it is read for the name of the rotated log -/
  rotation : Int
  rename : Option String
  gzip : Gzip
  remove : Option String
  createDirectories : Option String
  permissions : Option String
  openFile : Option String
  opens : Bool
  saveLogEntry : Option String
  write : Option String

/-- the arguments of `log`, and what becomes of the calls it makes -/
structure LogCall extends Outcome where
  level : LogLevel
  component : String
  message : String
  clientId : Option String

abbrev LogM := Prog State String

def attempt : Option String → LogM Unit
  | some what => throw what
  | none => pure ()

def State.noted (s : State) (text : String) : State :=
  { s with errorStream := s.errorStream ++ [text] }

def report (text : String) : LogM Unit := Prog.modify fun s => s.noted text

def noSuchFile : String := "No such file or directory"

def shouldRotate (cfg : Settings) (o : Outcome) : LogM Bool :=
  tryCatch
    (do
      attempt o.fileSize
      match (← Prog.get).current with
      | none => throw noSuchFile
      | some content => pure (decide (cfg.maxLogSize * 1048576 ≤ content.length)))
    fun what => do
      report ("Logger: Failed to check log file size: " ++ what)
      pure false

def makeParentPath (cfg : Settings) (o : Outcome) : LogM Unit :=
  if cfg.hasParentPath then do
    attempt o.createDirectories
    attempt o.permissions
  else pure ()

def openLogFile (cfg : Settings) (o : Outcome) : LogM Bool :=
  tryCatch
    (do
      makeParentPath cfg o
      attempt o.openFile
      if o.opens then
        Prog.modify fun s =>
          { s with current := some (s.current.getD []), isOpen := true, fileEnabled := true }
        pure true
      else
        report ("Logger: failed to open log file: " ++ cfg.logPath)
        Prog.modify fun s => { s with fileEnabled := false }
        pure false)
    fun what => do
      report ("Logger: exception opening log file: " ++ what)
      Prog.modify fun s => { s with fileEnabled := false }
      pure false

/-- `m_logFile.close()`, where it is open -/
def State.closed (s : State) : State :=
  if s.isOpen then { s with isOpen := false, fileEnabled := false } else s

/-- the log file under its new name -/
def State.renamed (s : State) (now : Int) (content : Bytes) : State :=
  { s with current := none, rotated := Function.update s.rotated now (some content) }

def State.compressed (s : State) (now : Int) : Option Archive → State
  | none => s
  | some archive => { s with archives := Function.update s.archives now (some archive) }

def State.removed (s : State) (now : Int) : State :=
  { s with rotated := Function.update s.rotated now none }

/-- the part of `logRotation` for a log file that exists -/
def archiveLog (o : Outcome) (content : Bytes) : LogM Unit := do
  attempt o.rename
  Prog.modify fun s => s.renamed o.rotation content
  Prog.modify fun s => s.compressed o.rotation (compressFileGzip o.gzip content).2
  if (compressFileGzip o.gzip content).1 then
    attempt o.remove
    Prog.modify fun s => s.removed o.rotation
  else report "Logger: Failed to compress rotated log file."

/-- the end of `logRotation` -/
def reopen (cfg : Settings) (o : Outcome) : LogM Unit := do
  if ← openLogFile cfg o then
    Prog.modify fun s =>
      { s with console := s.console ++ ["Logger: Log rotation completed successfully."] }
  else report "Logger: Failed to reopen log file after rotation."

def logRotation (cfg : Settings) (o : Outcome) : LogM Unit := do
  Prog.modify State.closed
  attempt o.exists?
  match (← Prog.get).current with
  | some content => archiveLog o content
  | none => pure ()
  reopen cfg o

def LogCall.row (c : LogCall) : LogRow :=
  ⟨formatDate c.now, levelToString c.level, c.component, c.message, c.clientId⟩

def LogCall.text (c : LogCall) : Bytes :=
  bytesOf (lineText (formatDate c.now) c.component (levelToString c.level) c.message c.clientId)

def saveRow (c : LogCall) : LogM Unit :=
  tryCatch
    (do
      attempt c.saveLogEntry
      Prog.modify fun s => { s with rows := s.rows ++ [c.row] })
    fun what =>
      report ("CRITICAL LOGGER FAILURE: Could not persist log. DB Error: " ++ what)

def writeLine (c : LogCall) : LogM Unit :=
  tryCatch
    (do
      attempt c.write
      Prog.modify fun s =>
        if s.isOpen then { s with current := some (s.current.getD [] ++ c.text) } else s)
    fun what => do
      report ("Logger: failed to write to log file: " ++ what)
      Prog.modify fun s => { s with fileEnabled := false }

/-- the part of `log` after a rotation -/
def persist (c : LogCall) : LogM Unit := do
  saveRow c
  if (← Prog.get).fileEnabled then
    writeLine c

/-- the body of `Logger::log` -/
def log (cfg : Settings) (c : LogCall) : LogM Unit := do
  if ← shouldRotate cfg c.toOutcome then
    logRotation cfg c.toOutcome
  persist c

/-- `Logger::log`: an exception that leaves the body ends the process -/
def call (cfg : Settings) (s : State) (c : LogCall) : Option State :=
  match (log cfg c).run s with
  | (.ok (), s') => some s'
  | (.error _, _) => none

variable {o : Outcome} {s : State} {content : Bytes}

/-! ## what the calls leave alone -/

@[simp] theorem run_attempt_none (s : State) : (attempt none).run s = (.ok (), s) := rfl

@[simp] theorem run_attempt_some (what : String) (s : State) :
    (attempt (some what)).run s = (.error what, s) := rfl

/-- the rotated logs, the archives and the rows are those of before -/
structure SameStores (s s' : State) : Prop where
  rotated : s'.rotated = s.rotated
  archives : s'.archives = s.archives
  rows : s'.rows = s.rows

instance : IsPreorder State SameStores where
  refl _ := ⟨rfl, rfl, rfl⟩
  trans _ _ _ h h' := ⟨h'.rotated.trans h.rotated, h'.archives.trans h.archives,
    h'.rows.trans h.rows⟩

theorem attempt_keeps {R : State → State → Prop} [IsPreorder State R] (failure : Option String) :
    (attempt failure).Keeps R := by
  intro s
  cases failure with
  | none => exact refl_of R s
  | some what => exact refl_of R s

theorem report_sameStores (text : String) : (report text).Keeps SameStores :=
  fun _ => ⟨rfl, rfl, rfl⟩

theorem closed_sameStores (s : State) : SameStores s s.closed := by
  unfold State.closed
  cases s.isOpen with
  | true => exact ⟨rfl, rfl, rfl⟩
  | false => exact ⟨rfl, rfl, rfl⟩

theorem closed_current (s : State) : s.closed.current = s.current := by
  unfold State.closed
  cases s.isOpen with
  | true => rfl
  | false => rfl

theorem openLogFile_sameStores (cfg : Settings) (o : Outcome) :
    (openLogFile cfg o).Keeps SameStores := by
  have hdisabled : (Prog.modify fun s => { s with fileEnabled := false } : LogM Unit).Keeps
      SameStores := fun _ => ⟨rfl, rfl, rfl⟩
  refine Prog.keeps_tryCatch ?_ fun what => ?_
  · have hparent : (makeParentPath cfg o).Keeps SameStores :=
      Prog.keeps_ite (Prog.keeps_bind (attempt_keeps _) fun _ => attempt_keeps _)
        (Prog.keeps_pure ())
    refine Prog.keeps_bind hparent fun _ => ?_
    refine Prog.keeps_bind (attempt_keeps _) fun _ => Prog.keeps_ite ?_ ?_
    · exact Prog.keeps_bind (fun _ => ⟨rfl, rfl, rfl⟩) fun _ => Prog.keeps_pure true
    · exact Prog.keeps_bind (report_sameStores _) fun _ =>
        Prog.keeps_bind hdisabled fun _ => Prog.keeps_pure false
  · exact Prog.keeps_bind (report_sameStores _) fun _ =>
      Prog.keeps_bind hdisabled fun _ => Prog.keeps_pure false

/-- `openLogFile` is `noexcept` and catches what it throws -/
theorem openLogFile_returns (cfg : Settings) (o : Outcome) (s : State) :
    (openLogFile cfg o).Returns s :=
  Prog.returns_tryCatch fun _ _ => ⟨false, _, rfl⟩

theorem reopen_sameStores (cfg : Settings) (o : Outcome) : (reopen cfg o).Keeps SameStores :=
  Prog.keeps_bind (openLogFile_sameStores cfg o) fun _ =>
    Prog.keeps_ite (fun _ => ⟨rfl, rfl, rfl⟩) (report_sameStores _)

theorem reopen_returns (cfg : Settings) (o : Outcome) (s : State) : (reopen cfg o).Returns s :=
  Prog.returns_bind (openLogFile_returns cfg o s) fun _ _ =>
    Prog.returns_ite ⟨(), _, rfl⟩ ⟨(), _, rfl⟩

/-! ## one rotation -/

/-- `logRotation` for a log file that is there and found -/
theorem run_logRotation (cfg : Settings) (hexists : o.exists? = none)
    (hcurrent : s.current = some content) : (logRotation cfg o).run s =
      (archiveLog o content >>= fun _ => reopen cfg o).run s.closed := by
  unfold logRotation
  rw [Prog.run_bind, Prog.run_modify]
  simp only
  rw [Prog.run_bind, hexists, run_attempt_none]
  simp only
  rw [Prog.run_bind, Prog.run_get]
  simp only
  rw [closed_current, hcurrent]

/-- the rotated log and its archive as a compression leaves them -/
def State.archived (s : State) (o : Outcome) (content : Bytes) : State :=
  (s.renamed o.rotation content).compressed o.rotation (compressFileGzip o.gzip content).2

theorem run_archiveLog (content : Bytes) (s : State) (hrename : o.rename = none) :
    (archiveLog o content).run s =
      (if (compressFileGzip o.gzip content).1 then do
        attempt o.remove
        Prog.modify fun s => s.removed o.rotation
      else report "Logger: Failed to compress rotated log file.").run (s.archived o content) := by
  unfold archiveLog
  rw [Prog.run_bind, hrename, run_attempt_none]
  rfl

theorem archived_rotated (s : State) (o : Outcome) (content : Bytes) :
    (s.archived o content).rotated o.rotation = some content := by
  unfold State.archived
  cases (compressFileGzip o.gzip content).2 with
  | none => exact Function.update_self ..
  | some archive => exact Function.update_self ..

theorem archived_archives {archive : Archive}
    (h : (compressFileGzip o.gzip content).2 = some archive) :
    (s.archived o content).archives o.rotation = some archive := by
  unfold State.archived
  rw [h]
  exact Function.update_self ..

theorem archived_rows (s : State) (o : Outcome) (content : Bytes) :
    (s.archived o content).rows = s.rows := by
  unfold State.archived
  cases (compressFileGzip o.gzip content).2 with
  | none => rfl
  | some archive => rfl

/-- how the calls after the rename end -/
inductive Archived (o : Outcome) (content : Bytes) (s : State) : Except String Unit × State → Prop
  | failed (unreported : ¬ Reported o.gzip content) (text : String) :
      Archived o content s (.ok (), (s.archived o content).noted text)
  | removed (reported : Reported o.gzip content) (removes : o.remove = none) :
      Archived o content s (.ok (), (s.archived o content).removed o.rotation)
  | kept (reported : Reported o.gzip content) (what : String) (throws : o.remove = some what) :
      Archived o content s (.error what, s.archived o content)

theorem archiveLog_archived (content : Bytes) (s : State) (hrename : o.rename = none) :
    Archived o content s ((archiveLog o content).run s) := by
  have hreported := compressFileGzip_reported_iff o.gzip content
  rw [run_archiveLog content s hrename]
  cases hdone : (compressFileGzip o.gzip content).1 with
  | false =>
    rw [hdone] at hreported
    exact .failed (fun h => Bool.false_ne_true (hreported.mpr h)) _
  | true =>
    have hreported := hreported.mp hdone
    cases hremove : o.remove with
    | none => exact .removed hreported hremove
    | some what => exact .kept hreported what hremove

/-- how `logRotation` leaves the rotated log and its archive once the log file is renamed -/
theorem logRotation_stores (cfg : Settings) (hcurrent : s.current = some content)
    (hexists : o.exists? = none) (hrename : o.rename = none) :
    (Reported o.gzip content ∧ o.remove = none →
      ((logRotation cfg o).run s).2.rotated o.rotation = none ∧
      ((logRotation cfg o).run s).2.archives o.rotation = (compressFileGzip o.gzip content).2) ∧
    (¬ (Reported o.gzip content ∧ o.remove = none) →
      ((logRotation cfg o).run s).2.rotated o.rotation = some content) := by
  have hreopen : ∀ s', ((reopen cfg o).run s').2.rotated = s'.rotated ∧
      ((reopen cfg o).run s').2.archives = s'.archives := fun s' =>
    ⟨(reopen_sameStores cfg o s').rotated, (reopen_sameStores cfg o s').archives⟩
  have hrotated := archived_rotated s.closed o content
  have harchived := archiveLog_archived content s.closed hrename
  rw [run_logRotation cfg hexists hcurrent, Prog.run_bind]
  generalize (archiveLog o content).run s.closed = r at harchived ⊢
  cases harchived with
  | failed unreported text =>
    refine ⟨fun h => absurd h.1 unreported, fun _ => ?_⟩
    rw [(hreopen _).1]
    exact hrotated
  | removed reported removes =>
    refine ⟨fun _ => ?_, fun h => absurd ⟨reported, removes⟩ h⟩
    obtain ⟨archive, harchive⟩ := compressFileGzip_archive reported
    rw [(hreopen _).1, (hreopen _).2, harchive]
    exact ⟨Function.update_self .., archived_archives harchive⟩
  | kept reported what throws =>
    refine ⟨fun h => ?_, fun _ => hrotated⟩
    rw [throws] at h
    cases h.2

/-- **A compression that returns `true` has left a complete archive, exactly if it is not one that
went wrong unseen; and a rotation leaves the rotated log or a complete archive, exactly if it does
not remove the log after such a one.** -/
theorem archive_complete_iff (gzip : Gzip) (content : Bytes) :
    (((compressFileGzip gzip content).1 = true →
        (compressFileGzip gzip content).2 = some (.holds content)) ↔ ¬ Silent gzip content) ∧
    ∀ (cfg : Settings) (o : Outcome) (s : State), o.gzip = gzip → s.current = some content →
      o.exists? = none → o.rename = none →
      ((((logRotation cfg o).run s).2.rotated o.rotation = some content ∨
          ((logRotation cfg o).run s).2.archives o.rotation = some (.holds content)) ↔
        ¬ (Silent gzip content ∧ o.remove = none)) := by
  refine ⟨?_, ?_⟩
  · rw [compressFileGzip_reported_iff]
    constructor
    · intro h hsilent
      exact (compressFileGzip_whole_iff hsilent.1).mp (h hsilent.1) hsilent
    · intro h hreported
      exact (compressFileGzip_whole_iff hreported).mpr h
  · rintro cfg o s rfl hcurrent hexists hrename
    obtain ⟨hremoved, hkept⟩ := logRotation_stores cfg hcurrent hexists hrename
    by_cases h : Reported o.gzip content ∧ o.remove = none
    · obtain ⟨hgone, harchive⟩ := hremoved h
      rw [hgone, harchive, compressFileGzip_whole_iff h.1]
      constructor
      · rintro (hnone | hno) hsilent
        · cases hnone
        · exact hno hsilent.1
      · exact fun hno => .inr fun hsilent => hno ⟨hsilent, h.2⟩
    · exact iff_of_true (.inl (hkept h)) fun hsilent => h ⟨hsilent.1.1, hsilent.2⟩

/-! ## fixed inputs

A log file of two bytes; the compression reads them at once, or it reads one and then none. -/

/-- reads of the given numbers of bytes, each written, and then none -/
def reads (amounts : List Nat) (k : Nat) : Turn := ⟨amounts.getD k 0, (amounts.getD k 0 : Nat)⟩

/-- every call goes through -/
def smooth (amounts : List Nat) : Outcome where
  now := 0
  fileSize := none
  exists? := none
  rotation := 0
  rename := none
  gzip := ⟨true, true, reads amounts, true⟩
  remove := none
  createDirectories := none
  permissions := none
  openFile := none
  opens := true
  saveLogEntry := none
  write := none

def Settings.sample : Settings := ⟨⟨1, Nat.one_pos⟩, "logs/server.log"⟩

/-- the log file is open and has this content, and there is no other file -/
def State.holding (content : Bytes) : State :=
  ⟨some content, fun _ => none, fun _ => none, true, true, [], [], []⟩

theorem not_silent_whole : ¬ Silent (smooth [2]).gzip [97, 98] := by
  rintro ⟨-, ⟨k, hleft, hread⟩ | hclosed⟩
  · cases k with
    | zero => cases hread
    | succ k =>
      refine hleft ?_
      rw [← left_later]
      exact left_nil _ k
  · cases hclosed

theorem archive_complete_whole :
    ((logRotation .sample (smooth [2])).run (.holding [97, 98])).2.rotated 0 = some [97, 98] ∨
      ((logRotation .sample (smooth [2])).run (.holding [97, 98])).2.archives 0 =
        some (.holds [97, 98]) :=
  ((archive_complete_iff (smooth [2]).gzip [97, 98]).2 .sample (smooth [2]) (.holding [97, 98]) rfl
    rfl rfl rfl).mpr fun h => not_silent_whole h.1

/-- the second read fails: the archive has one byte of two, and the rotated log is removed -/
theorem read_error_loses_log :
    compressFileGzip (smooth [1]).gzip [97, 98] = (true, some (.holds [97])) ∧
    ((logRotation .sample (smooth [1])).run (.holding [97, 98])).2.rotated 0 = none ∧
    ((logRotation .sample (smooth [1])).run (.holding [97, 98])).2.archives 0 =
      some (.holds [97]) := by
  have hcopy : copy bufferChunkSize (reads [1]) ([97, 98] : Bytes) [] = (true, [97]) := by
    rw [copy_next bufferChunkSize_pos (by decide) (by decide),
      copy_end bufferChunkSize_pos (.inr rfl)]
    rfl
  have hcompressed : compressFileGzip (smooth [1]).gzip [97, 98] = (true, some (.holds [97])) := by
    rw [compressFileGzip_eq _ rfl rfl, show (smooth [1]).gzip.turns = reads [1] from rfl, hcopy]
    rfl
  have hreported : Reported (smooth [1]).gzip [97, 98] := by
    rw [← compressFileGzip_reported_iff, hcompressed]
  obtain ⟨hremoved, -⟩ :=
    logRotation_stores .sample (o := smooth [1]) (s := .holding [97, 98]) rfl rfl rfl
  rw [hcompressed] at hremoved
  exact ⟨hcompressed, hremoved ⟨hreported, rfl⟩⟩

/-! ## exceptions that leave log -/

/-- `shouldRotate` finds that the limit is reached -/
def State.tooLarge (s : State) (cfg : Settings) (o : Outcome) : Bool :=
  o.fileSize.isNone &&
    s.current.any fun content => decide (cfg.maxLogSize * 1048576 ≤ content.length)

theorem tooLarge_of_length {cfg : Settings} (hsize : o.fileSize = none)
    (hcurrent : s.current = some content) (hlength : cfg.maxLogSize * 1048576 ≤ content.length) :
    s.tooLarge cfg o = true := by
  unfold State.tooLarge
  rw [hsize, hcurrent, Option.isNone_none, Bool.true_and, Option.any_some]
  exact decide_eq_true hlength

theorem run_shouldRotate (cfg : Settings) (o : Outcome) (s : State) :
    ∃ s', (shouldRotate cfg o).run s = (.ok (s.tooLarge cfg o), s') ∧ SameStores s s' ∧
      s'.current = s.current := by
  unfold shouldRotate State.tooLarge
  obtain ⟨current, rotated, archives, isOpen, fileEnabled, rows, errorStream, console⟩ := s
  cases o.fileSize with
  | some what => exact ⟨_, rfl, ⟨rfl, rfl, rfl⟩, rfl⟩
  | none =>
    cases current with
    | none => exact ⟨_, rfl, ⟨rfl, rfl, rfl⟩, rfl⟩
    | some content =>
      rw [Option.isNone_none, Bool.true_and, Option.any_some]
      exact ⟨_, rfl, ⟨rfl, rfl, rfl⟩, rfl⟩

/-- the row that a call leaves, if its insert goes through -/
def LogCall.stored (c : LogCall) : List LogRow :=
  if c.saveLogEntry = none then [c.row] else []

theorem run_saveRow (c : LogCall) (s : State) :
    ∃ s', (saveRow c).run s = (.ok (), s') ∧ s'.rows = s.rows ++ c.stored := by
  unfold saveRow LogCall.stored
  cases c.saveLogEntry with
  | none => exact ⟨_, rfl, rfl⟩
  | some what => exact ⟨_, rfl, (List.append_nil _).symm⟩

theorem run_writeLine (c : LogCall) (s : State) :
    ∃ s', (writeLine c).run s = (.ok (), s') ∧ s'.rows = s.rows := by
  unfold writeLine
  obtain ⟨current, rotated, archives, isOpen, fileEnabled, rows, errorStream, console⟩ := s
  cases c.write with
  | some what => exact ⟨_, rfl, rfl⟩
  | none =>
    cases isOpen with
    | true => exact ⟨_, rfl, rfl⟩
    | false => exact ⟨_, rfl, rfl⟩

theorem run_persist (c : LogCall) (s : State) :
    ∃ s', (persist c).run s = (.ok (), s') ∧ s'.rows = s.rows ++ c.stored := by
  obtain ⟨s', hrun, hrows⟩ := run_saveRow c s
  unfold persist
  rw [Prog.run_bind, hrun, ← hrows]
  simp only
  rw [Prog.run_bind, Prog.run_get]
  simp only
  cases s'.fileEnabled with
  | false => exact ⟨s', rfl, rfl⟩
  | true => exact run_writeLine c s'

/-- one of the calls of `logRotation` outside every `try` throws -/
def Throws (o : Outcome) (content : Bytes) : Prop :=
  o.exists? ≠ none ∨ o.rename ≠ none ∨ (Reported o.gzip content ∧ o.remove ≠ none)

/-- how a rotation of a log file that is there ends -/
theorem logRotation_ends (cfg : Settings) (o : Outcome) (hcurrent : s.current = some content) :
    (∃ s', (logRotation cfg o).run s = (.ok (), s') ∧ s'.rows = s.rows ∧ ¬ Throws o content) ∨
      ∃ what s', (logRotation cfg o).run s = (.error what, s') ∧ Throws o content := by
  unfold Throws
  cases hexists : o.exists? with
  | some what =>
    refine .inr ⟨what, s.closed, ?_, .inl (Option.some_ne_none what)⟩
    unfold logRotation
    rw [Prog.run_bind, Prog.run_modify]
    simp only
    rw [Prog.run_bind, hexists, run_attempt_some]
  | none =>
    rw [run_logRotation cfg hexists hcurrent, Prog.run_bind]
    cases hrename : o.rename with
    | some what =>
      refine .inr ⟨what, s.closed, ?_, .inr (.inl (Option.some_ne_none what))⟩
      unfold archiveLog
      rw [Prog.run_bind, hrename, run_attempt_some]
    | none =>
      have harchived := archiveLog_archived content s.closed hrename
      have hrows : (s.closed.archived o content).rows = s.rows :=
        (archived_rows s.closed o content).trans (closed_sameStores s).rows
      -- whatever comes of it, opening the file again returns
      have hreopen : ∀ s', s'.rows = s.rows →
          ∃ s'', (reopen cfg o).run s' = (.ok (), s'') ∧ s''.rows = s.rows := by
        intro s' hs'
        obtain ⟨⟨⟩, s'', hrun⟩ := reopen_returns cfg o s'
        have hsame := reopen_sameStores cfg o s'
        rw [hrun] at hsame
        exact ⟨s'', hrun, hsame.rows.trans hs'⟩
      generalize (archiveLog o content).run s.closed = r at harchived ⊢
      cases harchived with
      | failed unreported text =>
        obtain ⟨s'', hrun, hs''⟩ := hreopen ((s.closed.archived o content).noted text) hrows
        refine .inl ⟨s'', hrun, hs'', ?_⟩
        rintro (h | h | h)
        · exact h rfl
        · exact h rfl
        · exact unreported h.1
      | removed reported removes =>
        obtain ⟨s'', hrun, hs''⟩ :=
          hreopen ((s.closed.archived o content).removed o.rotation) hrows
        refine .inl ⟨s'', hrun, hs'', ?_⟩
        rintro (h | h | h)
        · exact h rfl
        · exact h rfl
        · exact h.2 removes
      | kept reported what throws =>
        refine .inr ⟨what, _, rfl, .inr (.inr ⟨reported, ?_⟩)⟩
        rw [throws]
        exact Option.some_ne_none what

/-- the call rotates the log file, and the rotation throws -/
def Bursts (cfg : Settings) (s : State) (c : LogCall) : Prop :=
  s.tooLarge cfg c.toOutcome = true ∧
    ∃ content, s.current = some content ∧ Throws c.toOutcome content

/-- **A call of `log` ends the process exactly if it rotates and the rotation throws; else it leaves
its row.** -/
theorem call_ends (cfg : Settings) (s : State) (c : LogCall) :
    (∃ s', call cfg s c = some s' ∧ s'.rows = s.rows ++ c.stored ∧ ¬ Bursts cfg s c) ∨
      (call cfg s c = none ∧ Bursts cfg s c) := by
  obtain ⟨s', hcheck, hsame, hcurrent⟩ := run_shouldRotate cfg c.toOutcome s
  unfold call log Bursts
  rw [Prog.run_bind, hcheck]
  simp only
  cases hlarge : s.tooLarge cfg c.toOutcome with
  | false =>
    obtain ⟨s'', hrun, hrows⟩ := run_persist c s'
    simp only [Bool.false_eq_true, if_false]
    rw [hrun]
    exact .inl ⟨s'', rfl, by rw [hrows, hsame.rows], fun h => h.1⟩
  | true =>
    simp only [if_true]
    obtain ⟨content, hcontent⟩ : ∃ content, s.current = some content := by
      cases hs : s.current with
      | none =>
        unfold State.tooLarge at hlarge
        rw [hs] at hlarge
        simp at hlarge
      | some content => exact ⟨content, rfl⟩
    rw [Prog.run_bind]
    rcases logRotation_ends cfg c.toOutcome (hcurrent.trans hcontent) with
      ⟨s₁, hrotated, hrows, hno⟩ | ⟨what, s₁, hrotated, hthrows⟩
    · obtain ⟨s'', hrun, hrows'⟩ := run_persist c s₁
      rw [hrotated]
      simp only
      rw [hrun]
      refine .inl ⟨s'', rfl, by rw [hrows', hrows, hsame.rows], ?_⟩
      rintro ⟨-, content', hcontent', h⟩
      rw [hcontent] at hcontent'
      cases hcontent'
      exact hno h
    · rw [hrotated]
      exact .inr ⟨rfl, trivial, content, hcontent, hthrows⟩

theorem call_eq_none_iff (cfg : Settings) (s : State) (c : LogCall) :
    call cfg s c = none ↔ Bursts cfg s c := by
  rcases call_ends cfg s c with ⟨s', hcall, -, hno⟩ | ⟨hcall, hbursts⟩
  · rw [hcall]
    exact iff_of_false (Option.some_ne_none s') hno
  · exact iff_of_true hcall hbursts

theorem call_rows {cfg : Settings} {s' : State} {c : LogCall} (h : call cfg s c = some s') :
    s'.rows = s.rows ++ c.stored := by
  rcases call_ends cfg s c with ⟨s'', hcall, hrows, -⟩ | ⟨hcall, -⟩
  · rw [h] at hcall
    cases hcall
    exact hrows
  · rw [h] at hcall
    cases hcall

/-- **A run of log calls goes through, with a row for every insert that the database took, exactly
if no call of it rotates with a rotation that throws.** -/
theorem logging_survives_iff (cfg : Settings) (s : State) (calls : List LogCall) :
    (∃ s', runFrom (call cfg) s calls = some s' ∧
        s'.rows = s.rows ++ calls.flatMap LogCall.stored) ↔
      ¬ Occurred (call cfg) s calls (Bursts cfg) := by
  have hrows : ∀ calls s', runFrom (call cfg) s calls = some s' →
      s'.rows = s.rows ++ calls.flatMap LogCall.stored := by
    refine runFrom_induction (List.append_nil _).symm fun calls s₁ c s₂ _ ih hc => ?_
    rw [call_rows hc, ih, List.flatMap_append, List.flatMap_singleton, List.append_assoc]
  rw [← runs_iff_not_occurred (call_eq_none_iff cfg) s calls]
  constructor
  · rintro ⟨s', hrun, -⟩
    exact ⟨s', hrun⟩
  · rintro ⟨s', hrun⟩
    exact ⟨s', hrun, hrows calls s' hrun⟩

/-- a log file that has reached the limit of one mebibyte -/
def fullLog : State := .holding (List.replicate 1048576 120)

def deniedCall : LogCall :=
  { smooth [] with
    rename := some "Permission denied"
    level := .info
    component := "Server"
    message := "ready"
    clientId := none }

/-- a rename that is denied ends the server -/
theorem denied_rename_ends_server :
    call .sample fullLog deniedCall = none ∧
      Bursts .sample fullLog deniedCall := by
  have hlength : Settings.sample.maxLogSize * 1048576 ≤
      (List.replicate 1048576 (120 : UInt8)).length := by
    rw [List.length_replicate]
    exact le_refl 1048576
  have hlarge : fullLog.tooLarge .sample deniedCall.toOutcome = true :=
    tooLarge_of_length rfl rfl hlength
  have hbursts : Bursts .sample fullLog deniedCall :=
    ⟨hlarge, _, rfl, .inr (.inl (Option.some_ne_none _))⟩
  exact ⟨(call_eq_none_iff .sample fullLog deniedCall).mpr hbursts, hbursts⟩

end Logger
end Logistics
