import Logistics.Lib.Disk
import Logistics.Lib.Runs
import Logistics.Store.Storage

/-!
# Logger: the log file and its rotation

The file half of `Logger::log`, called by any number of threads.  A thread tests the size of the
file without the mutex (`shouldRotate`), rotates the file under it if the size was reached
(`logRotation`), tests `m_fileEnabled` and writes its line under the mutex.  Between any two of these
the other threads go on.

The paths are the configured one and, for every clock reading, `server_<time>.log` and
`server_<time>.log.gz`; the configured path is taken to be none of the latter.  A line carries the
number of lines written before it, so that equal texts are told apart.

* `logRotation`             rename, compress, remove, open again;
* `Overwrites`              a rotation to a time whose archive has lines already;
* `rotation_keeps_lines_iff`   **every line stays exactly if no rotation overwrites**;
* `second_rotation_loses_lines`   two threads that rotate within one second.
-/

namespace Logistics
open Runs Disk

/-- `max_log_size_mb`, which `Config` requires to be positive -/
structure LogConfig where
  maxLogSize : Nat
  size_pos : 0 < maxLogSize

inductive LogPath where
  | current
  | rotated (time : Int)
  | archive (time : Int)
  deriving DecidableEq

structure LogLine where
  serial : Nat
  text : String
  deriving DecidableEq

def lineText (date component level message : String) (clientId : Option String) : String :=
  "[" ++ date ++ "]" ++ " [" ++ component ++ "]" ++ " [" ++ level ++ "] " ++ message ++
    (match clientId with
      | some clientId => " (client: " ++ clientId ++ ")"
      | none => "") ++ "\n"

abbrev LogFiles := LogPath → Option (List LogLine)

/-- where a thread is in `Logger::log`, with the line it is to write -/
inductive LogPc where
  | idle
  | checking (text : String)
  | rotating (text : String)
  | entering (text : String)
  | writing (text : String)

/-- what becomes of a compression: a file that cannot be opened, or a `gzwrite` that fails after
some lines -/
inductive Gzip where
  | done
  | notOpened
  | broken (lines : Nat)

structure LogState where
  files : LogFiles
  isOpen : Bool
  fileEnabled : Bool
  threads : Nat → LogPc
  written : List LogLine

inductive LogAct where
  | log (k : Nat) (now : Int) (level : LogLevel) (component message : String)
      (clientId : Option String)
  | shouldRotate (k : Nat)
  | logRotation (k : Nat) (now : Int) (gzip : Gzip) (opens : Bool)
  | enter (k : Nat)
  | write (k : Nat)
  | closeLogFile

namespace LogState

/-- a log file that was just created -/
def opened : LogState :=
  ⟨Function.update (fun _ => none) .current (some []), true, true, fun _ => .idle, []⟩

def setPc (s : LogState) (k : Nat) (pc : LogPc) : LogState :=
  { s with threads := Function.update s.threads k pc }

def fileSize (lines : List LogLine) : Nat := (lines.map fun line => line.text.utf8ByteSize).sum

def shouldRotate (cfg : LogConfig) (s : LogState) : Bool :=
  match s.files .current with
  | none => false
  | some lines => cfg.maxLogSize * 1048576 ≤ fileSize lines

def compressFileGzip (files : LogFiles) (src dest : LogPath) : Gzip → Bool × LogFiles
  | .done => (true, copy files src dest)
  | .notOpened => (false, files)
  | .broken lines =>
    (false, Function.update files dest (some ((contents files src).take lines)))

def archiveLog (files : LogFiles) (now : Int) (gzip : Gzip) : LogFiles :=
  match files .current with
  | none => files
  | some _ =>
    let renamed := rename files .current (.rotated now)
    match compressFileGzip renamed (.rotated now) (.archive now) gzip with
    | (true, compressed) => remove compressed (.rotated now)
    | (false, compressed) => compressed

def openLogFile (s : LogState) (opens : Bool) : LogState :=
  if opens then { s with files := Disk.write s.files .current [], isOpen := true, fileEnabled := true }
  else { s with isOpen := false, fileEnabled := false }

def logRotation (s : LogState) (now : Int) (gzip : Gzip) (opens : Bool) : LogState :=
  openLogFile { s with files := archiveLog s.files now gzip } opens

/-- a line for a stream that is not open goes nowhere -/
def writeLine (s : LogState) (text : String) : LogState :=
  if s.isOpen then
    { s with
      files := Disk.write s.files .current [⟨s.written.length, text⟩]
      written := s.written ++ [⟨s.written.length, text⟩] }
  else s

def step (cfg : LogConfig) (s : LogState) : LogAct → Option LogState
  | .log k now level component message clientId =>
    match s.threads k with
    | .idle => some (s.setPc k (.checking
        (lineText (formatDate now) component (levelToString level) message clientId)))
    | _ => none
  | .shouldRotate k =>
    match s.threads k with
    | .checking text =>
      some (s.setPc k (if s.shouldRotate cfg then .rotating text else .entering text))
    | _ => none
  | .logRotation k now gzip opens =>
    match s.threads k with
    | .rotating text => some ((s.logRotation now gzip opens).setPc k (.entering text))
    | _ => none
  | .enter k =>
    match s.threads k with
    | .entering text => some (s.setPc k (if s.fileEnabled then .writing text else .idle))
    | _ => none
  | .write k =>
    match s.threads k with
    | .writing text => some ((s.writeLine text).setPc k .idle)
    | _ => none
  | .closeLogFile =>
    some (if s.isOpen then { s with isOpen := false, fileEnabled := false } else s)

/-! ## the lines -/

/-- every line that was written is in one of the files, once -/
def LinesKept (s : LogState) : Prop := Kept (contents s.files) s.written

structure Sound (s : LogState) : Prop where
  within : Within (contents s.files) s.written
  numbered : ∀ line ∈ s.written, line.serial < s.written.length

/-- the rotation replaces a file that has lines -/
def Overwrites (s : LogState) : LogAct → Prop
  | .logRotation k now _ _ => (∃ text, s.threads k = .rotating text) ∧ s.files .current ≠ none ∧
      (contents s.files (.rotated now) ≠ [] ∨ contents s.files (.archive now) ≠ [])
  | _ => False

/-- what a step does to the files: nothing, one line, or a rotation -/
inductive Moves (s : LogState) : LogAct → LogState → Prop
  | aside {a : LogAct} {s' : LogState}
      (notRotation : ∀ k now gzip opens, a ≠ .logRotation k now gzip opens)
      (files : s'.files = s.files) (written : s'.written = s.written) : Moves s a s'
  | line {a : LogAct} {s' : LogState} (text : String)
      (notRotation : ∀ k now gzip opens, a ≠ .logRotation k now gzip opens)
      (files : s'.files = Disk.write s.files .current [⟨s.written.length, text⟩])
      (written : s'.written = s.written ++ [⟨s.written.length, text⟩]) : Moves s a s'
  | rotation {k : Nat} {now : Int} {gzip : Gzip} {opens : Bool} {text : String} {s' : LogState}
      (rotating : s.threads k = .rotating text)
      (files : contents s'.files = contents (archiveLog s.files now gzip))
      (written : s'.written = s.written) : Moves s (.logRotation k now gzip opens) s'

theorem contents_openLogFile (s : LogState) (opens : Bool) :
    contents (s.openLogFile opens).files = contents s.files := by
  cases opens with
  | true => exact contents_write_nil s.files .current
  | false => rfl

theorem written_openLogFile (s : LogState) (opens : Bool) :
    (s.openLogFile opens).written = s.written := by
  cases opens <;> rfl

theorem moves_of_step {cfg : LogConfig} {s s' : LogState} {a : LogAct}
    (h : s.step cfg a = some s') : Moves s a s' := by
  cases a with
  | log k now level component message clientId =>
    simp only [step] at h
    cases hpc : s.threads k with
    | idle =>
      simp only [hpc] at h
      obtain rfl := Option.some.inj h
      exact .aside (fun _ _ _ _ ha => by cases ha) rfl rfl
    | _ => simp [hpc] at h
  | shouldRotate k =>
    simp only [step] at h
    cases hpc : s.threads k with
    | checking text =>
      simp only [hpc] at h
      obtain rfl := Option.some.inj h
      exact .aside (fun _ _ _ _ ha => by cases ha) rfl rfl
    | _ => simp [hpc] at h
  | logRotation k now gzip opens =>
    simp only [step] at h
    cases hpc : s.threads k with
    | rotating text =>
      simp only [hpc] at h
      obtain rfl := Option.some.inj h
      exact .rotation hpc (contents_openLogFile _ opens) (written_openLogFile _ opens)
    | _ => simp [hpc] at h
  | enter k =>
    simp only [step] at h
    cases hpc : s.threads k with
    | entering text =>
      simp only [hpc] at h
      obtain rfl := Option.some.inj h
      exact .aside (fun _ _ _ _ ha => by cases ha) rfl rfl
    | _ => simp [hpc] at h
  | write k =>
    simp only [step] at h
    cases hpc : s.threads k with
    | writing text =>
      simp only [hpc] at h
      obtain rfl := Option.some.inj h
      unfold writeLine
      cases s.isOpen with
      | true => exact .line text (fun _ _ _ _ ha => by cases ha) rfl rfl
      | false => exact .aside (fun _ _ _ _ ha => by cases ha) rfl rfl
    | _ => simp [hpc] at h
  | closeLogFile =>
    simp only [step] at h
    obtain rfl := Option.some.inj h
    cases s.isOpen with
    | true => exact .aside (fun _ _ _ _ ha => by cases ha) rfl rfl
    | false => exact .aside (fun _ _ _ _ ha => by cases ha) rfl rfl

/-! ## rotations -/

/-- a rotation moves the lines of the log file to the rotated one, and from there to the archive -/
theorem contents_archiveLog {files : LogFiles} (h : files .current ≠ none) (now : Int) :
    contents (archiveLog files now .done) =
      move (move (contents files) .current (.rotated now)) (.rotated now) (.archive now) := by
  unfold archiveLog
  cases hcurrent : files .current with
  | none => exact absurd hcurrent h
  | some lines =>
    show contents (remove (copy (rename files .current (.rotated now)) (.rotated now)
      (.archive now)) (.rotated now)) = _
    rw [contents_copy_remove, contents_rename]

theorem within_archiveLog {files : LogFiles} {written : List LogLine}
    (h : Within (contents files) written) (now : Int) (gzip : Gzip) :
    Within (contents (archiveLog files now gzip)) written := by
  cases hcurrent : files .current with
  | none =>
    unfold archiveLog
    simp only [hcurrent]
    exact h
  | some lines =>
    have hrenamed : Within (contents (rename files .current (.rotated now))) written := by
      rw [contents_rename]
      exact h.move .current (.rotated now)
    cases gzip with
    | done =>
      rw [contents_archiveLog (by rw [hcurrent]; exact Option.some_ne_none lines)]
      exact (h.move .current (.rotated now)).move (.rotated now) (.archive now)
    | notOpened =>
      unfold archiveLog
      simp only [hcurrent]
      exact hrenamed
    | broken n =>
      unfold archiveLog
      simp only [hcurrent, compressFileGzip]
      rw [contents_update]
      apply hrenamed.update
      intro line hline
      exact hrenamed (.rotated now) line (List.mem_of_mem_take hline)

theorem sound_step {cfg : LogConfig} {s s' : LogState} {a : LogAct} (h : Sound s)
    (hs : s.step cfg a = some s') : Sound s' := by
  cases moves_of_step hs with
  | aside notRotation files written =>
    refine ⟨?_, ?_⟩
    · rw [files, written]
      exact h.within
    · rw [written]
      exact h.numbered
  | line text notRotation files written =>
    refine ⟨?_, ?_⟩
    · rw [files, written, contents_write]
      exact h.within.write .current _
    · rw [written]
      intro line hline
      rw [List.length_append, List.length_singleton]
      rcases List.mem_append.mp hline with hold | hnew
      · have hlt := h.numbered line hold
        omega
      · rw [List.mem_singleton.mp hnew]
        exact Nat.lt_succ_self s.written.length
  | @rotation k now gzip opens text _ rotating files written =>
    refine ⟨?_, ?_⟩
    · rw [files, written]
      exact within_archiveLog h.within now gzip
    · rw [written]
      exact h.numbered

/-- **A rotation keeps the lines exactly if neither of its two targets had any.** -/
theorem kept_archiveLog_iff {files : LogFiles} {written : List LogLine}
    (hkept : Kept (contents files) written) (hwithin : Within (contents files) written)
    (hcurrent : files .current ≠ none) (now : Int) :
    Kept (contents (archiveLog files now .done)) written ↔
      contents files (.rotated now) = [] ∧ contents files (.archive now) = [] := by
  have hne : LogPath.rotated now ≠ .current := fun h => by cases h
  have hne' : LogPath.archive now ≠ .rotated now := fun h => by cases h
  have hne'' : LogPath.archive now ≠ .current := fun h => by cases h
  rw [contents_archiveLog hcurrent]
  by_cases hempty : contents files (.rotated now) = []
  · have hmoved := hkept.move hne hempty
    rw [kept_move_iff hmoved (hwithin.move _ _) hne', move_of_ne _ hne'' hne']
    exact ⟨fun h => ⟨hempty, h⟩, fun h => h.2⟩
  · -- the rename has dropped a line, and no later move brings it back
    obtain ⟨line, hline, hmissing⟩ := hkept.missing hwithin hne hempty
    refine iff_of_false ?_ fun h => hempty h.1
    intro h
    exact (h line hline).not_missing (hmissing.move _ _)

theorem linesKept_step_iff {cfg : LogConfig} {s s' : LogState} {a : LogAct} (h : Sound s)
    (hkept : LinesKept s) (hgzip : ∀ k now gzip opens, a = .logRotation k now gzip opens → gzip = .done)
    (hs : s.step cfg a = some s') : LinesKept s' ↔ ¬ Overwrites s a := by
  have hquiet : (∀ k now gzip opens, a ≠ .logRotation k now gzip opens) → ¬ Overwrites s a := by
    intro hnot hover
    cases a with
    | logRotation k now gzip opens => exact hnot k now gzip opens rfl
    | _ => exact hover
  cases moves_of_step hs with
  | aside notRotation files written =>
    refine iff_of_true ?_ (hquiet notRotation)
    unfold LinesKept
    rw [files, written]
    exact hkept
  | line text notRotation files written =>
    refine iff_of_true ?_ (hquiet notRotation)
    unfold LinesKept
    rw [files, written, contents_write]
    refine hkept.write h.within ?_ .current
    intro hold
    exact Nat.lt_irrefl _ (h.numbered _ hold)
  | @rotation k now gzip opens text _ rotating files written =>
    obtain rfl := hgzip k now gzip opens rfl
    unfold LinesKept
    rw [files, written]
    by_cases hcurrent : s.files .current = none
    · have hsame : archiveLog s.files now .done = s.files := by
        unfold archiveLog
        simp only [hcurrent]
      rw [hsame]
      exact iff_of_true hkept fun hover => hover.2.1 hcurrent
    · rw [kept_archiveLog_iff hkept h.within hcurrent now]
      constructor
      · rintro ⟨hrotated, harchive⟩ ⟨-, -, hfull | hfull⟩
        · exact hfull hrotated
        · exact hfull harchive
      · intro hno
        constructor
        · by_contra hfull
          exact hno ⟨⟨text, rotating⟩, hcurrent, .inl hfull⟩
        · by_contra hfull
          exact hno ⟨⟨text, rotating⟩, hcurrent, .inr hfull⟩

/-- **Every line that was written is in one of the files, once, throughout a run, exactly if in the run
no rotation overwrites a file that has lines.**  Whatever lines the files had at first. -/
theorem rotation_keeps_lines_iff (cfg : LogConfig) (s₀ : LogState) (hsound : Sound s₀)
    (hkept : LinesKept s₀) (acts : List LogAct)
    (hgzip : ∀ a ∈ acts, ∀ k now gzip opens, a = .logRotation k now gzip opens → gzip = .done) :
    Always (step cfg) s₀ acts LinesKept ↔ ¬ Occurred (step cfg) s₀ acts Overwrites := by
  refine always_iff_not_occurred hgzip hsound ?_ hkept ?_ ?_
  · intro s a s' h hs
    exact sound_step h hs
  · intro s a hover
    cases a with
    | logRotation k now gzip opens =>
      obtain ⟨⟨text, htext⟩, -⟩ := hover
      simp only [step, htext]
      exact ⟨_, rfl⟩
    | _ => exact hover.elim
  · intro s a s' h hk hdone hs
    exact linesKept_step_iff h hk hdone hs

/-! ## fixed inputs

A line of a mebibyte; two threads find the file too large before either of them rotates it. -/

def doubled : Nat → String
  | 0 => "x"
  | n + 1 => doubled n ++ doubled n

theorem utf8ByteSize_doubled (n : Nat) : (doubled n).utf8ByteSize = 2 ^ n := by
  induction n with
  | zero => rfl
  | succ n ih =>
    unfold doubled
    rw [String.utf8ByteSize_append, ih]
    omega

def oneMebibyte : LogConfig := ⟨1, by decide⟩

/-- the line of the message `doubled 20` -/
def longText : String := lineText (formatDate 0) "Server" "INFO" (doubled 20) none

theorem longText_size : 1048576 ≤ longText.utf8ByteSize := by
  unfold longText lineText
  simp only [String.utf8ByteSize_append, utf8ByteSize_doubled]
  omega

def writeLong : List LogAct :=
  [.log 0 0 .info "Server" (doubled 20) none, .shouldRotate 0, .enter 0, .write 0]

/-- both threads decide to rotate the same file -/
def bothDecide : List LogAct :=
  [.log 1 0 .info "Server" "" none, .log 2 0 .info "Server" "" none, .shouldRotate 1, .shouldRotate 2]

def rotateTwice (now : Int) : List LogAct :=
  [.logRotation 1 0 .done true, .logRotation 2 now .done true]

/-- the first thread finds the file empty and writes the line -/
theorem run_writeLong : ∃ s, runFrom (step oneMebibyte) opened writeLong = some s ∧
    s.files .current = some [⟨0, longText⟩] ∧ (∀ p, p ≠ .current → contents s.files p = []) ∧
    s.written = [⟨0, longText⟩] ∧ s.threads 1 = .idle ∧ s.threads 2 = .idle := by
  refine ⟨_, rfl, rfl, ?_, rfl, rfl, rfl⟩
  intro p hp
  cases p with
  | current => exact absurd rfl hp
  | rotated time => rfl
  | archive time => rfl

theorem shouldRotate_longText {s : LogState} (h : s.files .current = some [⟨0, longText⟩]) :
    s.shouldRotate oneMebibyte = true := by
  have hsize : fileSize [⟨0, longText⟩] = longText.utf8ByteSize := List.sum_singleton
  have hone : oneMebibyte.maxLogSize = 1 := rfl
  unfold shouldRotate
  simp only [h, hsize, hone, one_mul]
  exact decide_eq_true longText_size

/-- a rotation at the time 0 of files that hold lines in the log file and in that archive only -/
theorem contents_logRotation {s : LogState} (hcurrent : s.files .current ≠ none)
    (hothers : ∀ p, p ≠ .current → p ≠ .archive 0 → contents s.files p = []) (p : LogPath) :
    contents (s.logRotation 0 .done true).files p =
      if p = .archive 0 then contents s.files .current else [] := by
  unfold logRotation
  rw [contents_openLogFile, contents_archiveLog hcurrent]
  by_cases harchive : p = .archive 0
  · rw [if_pos harchive, harchive, move_target _ (fun h => by cases h),
      move_target _ (fun h => by cases h)]
  · rw [if_neg harchive]
    by_cases hrotated : p = .rotated 0
    · rw [hrotated]
      exact move_source _
    · rw [move_of_ne _ hrotated harchive]
      by_cases hp : p = .current
      · rw [hp]
        exact move_source _
      · rw [move_of_ne _ hp hrotated]
        exact hothers p hp harchive

section Steps
variable {cfg : LogConfig} {s : LogState} {k : Nat} {text : String}

theorem step_shouldRotate (h : s.threads k = .checking text) (hsize : s.shouldRotate cfg = true) :
    s.step cfg (.shouldRotate k) = some (s.setPc k (.rotating text)) := by
  simp only [step, h, hsize, if_true]

theorem step_logRotation (h : s.threads k = .rotating text) (now : Int) (gzip : Gzip) (opens : Bool) :
    s.step cfg (.logRotation k now gzip opens) =
      some ((s.logRotation now gzip opens).setPc k (.entering text)) := by
  simp only [step, h]

end Steps

theorem run_bothDecide {s : LogState} (hcurrent : s.files .current = some [⟨0, longText⟩])
    (h₁ : s.threads 1 = .idle) (h₂ : s.threads 2 = .idle) :
    ∃ s' text, runFrom (step oneMebibyte) s bothDecide = some s' ∧ s'.files = s.files ∧
      s'.written = s.written ∧ s'.threads 1 = .rotating text ∧ s'.threads 2 = .rotating text := by
  let text := lineText (formatDate 0) "Server" "INFO" "" none
  let sa := s.setPc 1 (.checking text)
  let sb := sa.setPc 2 (.checking text)
  let sc := sb.setPc 1 (.rotating text)
  let sd := sc.setPc 2 (.rotating text)
  have ha : s.step oneMebibyte (.log 1 0 .info "Server" "" none) = some sa := by
    simp only [step, h₁]
    rfl
  have hb : sa.step oneMebibyte (.log 2 0 .info "Server" "" none) = some sb := by
    have h₂' : sa.threads 2 = .idle := h₂
    simp only [step, h₂']
    rfl
  have hc : sb.step oneMebibyte (.shouldRotate 1) = some sc :=
    step_shouldRotate rfl (shouldRotate_longText hcurrent)
  have hd : sc.step oneMebibyte (.shouldRotate 2) = some sd :=
    step_shouldRotate rfl (shouldRotate_longText hcurrent)
  refine ⟨sd, text, ?_, rfl, rfl, rfl, rfl⟩
  unfold bothDecide
  rw [runFrom_cons, ha, Option.bind_some, runFrom_cons, hb, Option.bind_some, runFrom_cons, hc,
    Option.bind_some, runFrom_cons, hd, Option.bind_some, runFrom_nil]

/-- the state in which both threads are about to rotate, and the one after the first rotation, which
moves the line to the archive -/
theorem run_firstRotation : ∃ s s₁ text, runFrom (step oneMebibyte) opened (writeLong ++ bothDecide) =
      some s ∧ s.step oneMebibyte (.logRotation 1 0 .done true) = some s₁ ∧
    (∀ p, p ≠ .current → contents s.files p = []) ∧
    s₁.written = [⟨0, longText⟩] ∧ s₁.files .current ≠ none ∧ s₁.threads 2 = .rotating text ∧
    ∀ p, contents s₁.files p = if p = .archive 0 then [⟨0, longText⟩] else [] := by
  obtain ⟨s, hwrite, hcurrent, hothers, hwritten, h₁, h₂⟩ := run_writeLong
  obtain ⟨s', text, hdecide, hfiles, hwritten', h₁', h₂'⟩ := run_bothDecide hcurrent h₁ h₂
  rw [← hfiles] at hcurrent hothers
  have hexists : s'.files .current ≠ none := by
    rw [hcurrent]
    exact Option.some_ne_none _
  refine ⟨s', _, text, ?_, step_logRotation h₁' 0 .done true, hothers, hwritten'.trans hwritten,
    Option.some_ne_none _, h₂', fun p => ?_⟩
  · rw [runFrom_append, hwrite, Option.bind_some]
    exact hdecide
  · refine (contents_logRotation hexists (fun p hp _ => hothers p hp) p).trans ?_
    rw [contents, hcurrent]
    rfl

theorem not_overwrites_of_no_rotation {cfg : LogConfig} {s₀ : LogState} {acts : List LogAct}
    (h : ∀ k now gzip opens, .logRotation k now gzip opens ∉ acts) :
    ¬ Occurred (step cfg) s₀ acts Overwrites := by
  rintro ⟨before, a, after, s, rfl, -, hover⟩
  cases a with
  | logRotation k now gzip opens =>
    exact h k now gzip opens (List.mem_append_right before List.mem_cons_self)
  | _ => exact hover

/-- the second rotation reads the clock a second later -/
theorem rotation_keeps_lines_later :
    Always (step oneMebibyte) opened (writeLong ++ bothDecide ++ rotateTwice 1) LinesKept := by
  refine (rotation_keeps_lines_iff oneMebibyte opened ⟨?_, ?_⟩ ?_ _ ?_).mpr ?_
  · intro p line hline
    cases p <;> cases hline
  · intro line hline
    cases hline
  · intro line hline
    cases hline
  · intro a ha k now gzip opens hrotation
    subst hrotation
    simp only [writeLong, bothDecide, rotateTwice, List.cons_append, List.nil_append, List.mem_cons,
      reduceCtorEq, LogAct.logRotation.injEq, List.not_mem_nil, false_or, or_false] at ha
    rcases ha with ha | ha
    · exact ha.2.2.1
    · exact ha.2.2.1
  · obtain ⟨s, s₁, text, hrun, hfirst, hbefore, -, -, -, hafter⟩ := run_firstRotation
    have hrun₁ : runFrom (step oneMebibyte) opened
        (writeLong ++ bothDecide ++ [.logRotation 1 0 .done true]) = some s₁ := by
      rw [runFrom_append, hrun, Option.bind_some, runFrom_cons, hfirst]
      rfl
    rw [rotateTwice, List.append_cons, occurred_concat hrun₁, occurred_concat hrun]
    rintro ((hnone | ⟨-, -, hfull | hfull⟩) | ⟨-, -, hfull | hfull⟩)
    · refine not_overwrites_of_no_rotation ?_ hnone
      simp [writeLong, bothDecide]
    · exact hfull (hbefore _ nofun)
    · exact hfull (hbefore _ nofun)
    · exact hfull (hafter _)
    · exact hfull (hafter _)

/-- both rotations read the same clock -/
theorem second_rotation_loses_lines :
    ∃ s, runFrom (step oneMebibyte) opened (writeLong ++ bothDecide ++ rotateTwice 0) = some s ∧
      ⟨0, longText⟩ ∈ s.written ∧ Missing (contents s.files) ⟨0, longText⟩ := by
  obtain ⟨s, s₁, text, hrun, hfirst, -, hwritten, hexists, hrotating, hcontents⟩ := run_firstRotation
  refine ⟨(s₁.logRotation 0 .done true).setPc 2 (.entering text), ?_, ?_, ?_⟩
  · rw [runFrom_append, hrun, Option.bind_some, rotateTwice, runFrom_cons, hfirst, Option.bind_some,
      runFrom_cons, step_logRotation hrotating, Option.bind_some, runFrom_nil]
  · show _ ∈ s₁.written
    rw [hwritten]
    exact List.mem_singleton_self _
  · intro p hp
    have hothers : ∀ p, p ≠ .current → p ≠ .archive 0 → contents s₁.files p = [] := by
      intro p _ harchive
      rw [hcontents p, if_neg harchive]
    -- the second rotation puts the new, empty log file over the archive of the first
    have hempty : contents s₁.files .current = [] := (hcontents .current).trans (if_neg nofun)
    have hlost : contents (s₁.logRotation 0 .done true).files p = [] := by
      rw [contents_logRotation hexists hothers p, hempty, ite_self]
    change _ ∈ contents (s₁.logRotation 0 .done true).files p at hp
    rw [hlost] at hp
    cases hp

end LogState

end Logistics
