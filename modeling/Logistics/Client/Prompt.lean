import Logistics.Lib.Strtok
import Logistics.Client.Transaction

/-!
# The buffer of a line

`fgets` leaves a line in a buffer, and from there on the client works in that buffer:
`process_user_input` ends the line at its newline, `build_json_from_input` cuts it up with `strtok`
and reads the tokens back where they stand, and `print_readable_response` cuts a copy of what is
left of it once more to find its command.

* `Buffer.buildJsonFromInput`, `Buffer.printerCommand`, `Buffer.beginAction`   on the memory;
* `Buffer.beginAction_eq`   on a line of `fgets`, they do what `beginAction` does;
* `line_safe_iff`        **a line is safe exactly if it is not made of spaces**;
* `spaces_crash`         a line of two spaces.
-/

namespace Logistics

namespace Client
open JsonText Strtok

namespace Buffer

abbrev Memory := Strtok.State UInt8

def stringAt (mem : Bytes) (i : Nat) : Bytes := Strtok.stringAt 0 mem i

/-- `strtok(NULL, " ")`, with the pointer it has saved -/
def strtok (t : Memory) : Option Nat × Memory := Strtok.next 0 (fun b => decide (b = 32)) t

/-! ## the functions of the source -/

section
variable (R : Runtime)

/-- a command with two arguments -/
def buildJsonForPair (first second usage note : String) (command : Nat) (t : Memory) :
    BuildResult × Memory :=
  let a := strtok t
  let b := strtok a.2
  (match a.1, b.1 with
    | some i, some j =>
      printed R note (.obj [(bytesOf "command", .str (stringAt b.2.mem command)),
        (bytesOf "payload", .obj [(bytesOf first, .str (stringAt b.2.mem i)),
          (bytesOf second, .str (stringAt b.2.mem j))])])
    | _, _ => .errorSyntax usage, b.2)

def buildJsonForGetStock : Nat → Memory → BuildResult × Memory :=
  buildJsonForPair R "category" "item" "Error: get_stock requires <category> and <item>."
    "Error creating the cJSON object for get_stock."

def buildJsonForLogin : Nat → Memory → BuildResult × Memory :=
  buildJsonForPair R "hostname" "password" "Error: login requires <username> and <password>."
    "Error creating the cJSON object for login."

def buildJsonForUnlockClient : Nat → Memory → BuildResult × Memory :=
  buildJsonForPair R "client_to_unlock" "secret_phrase"
    "Error: unlock_client requires <client_to_unlock> and <secret_phrase>."
    "Error creating the cJSON object for unlock_client."

def buildJsonForRegisterUser : Nat → Memory → BuildResult × Memory :=
  buildJsonForPair R "new_client_id" "new_client_password"
    "Error: register_user requires <new_username> and <new_password>."
    "Error creating the cJSON object for register_user."

def buildJsonForUpdateStock (command : Nat) (t : Memory) : BuildResult × Memory :=
  let category := strtok t
  let item := strtok category.2
  let quantityStr := strtok item.2
  let mem := quantityStr.2.mem
  (match category.1, item.1, quantityStr.1 with
    | some category, some item, some quantityStr =>
      updateStockObject R (stringAt mem command) (stringAt mem category) (stringAt mem item)
        (stringAt mem quantityStr)
    | _, _, _ => .errorSyntax "Error: update_stock requires <category>, <item> and <quantity>.",
    quantityStr.2)

def buildJsonForSingleCommand (command : Nat) (t : Memory) : BuildResult × Memory :=
  (Client.buildJsonForSingleCommand R (stringAt t.mem command), t)

def buildJsonFromInput (rawInput : Bytes) : BuildResult × Memory :=
  let t := strtok ⟨rawInput, 0⟩
  match t.1 with
  | none => (.crash, t.2)
  | some command =>
    let name := stringAt t.2.mem command
    if name = bytesOf "update_stock" then buildJsonForUpdateStock R command t.2
    else if name = bytesOf "get_stock" then buildJsonForGetStock R command t.2
    else if name = bytesOf "login" then buildJsonForLogin R command t.2
    else if name = bytesOf "unlock_client" then buildJsonForUnlockClient R command t.2
    else if name = bytesOf "register_user" then buildJsonForRegisterUser R command t.2
    else buildJsonForSingleCommand R command t.2

/-- the command for which `print_readable_response` prints: `strncpy`, and `strtok` on the copy -/
def printerCommand (inputBuffer : Bytes) : Option Bytes :=
  let copy := (stringAt inputBuffer 0).take (BUFFER_SIZE - 1) ++ [0]
  let t := strtok ⟨copy, 0⟩
  t.1.map (stringAt t.2.mem)

/-- `buffer[strcspn(buffer, "\n")] = 0` -/
def endLine (buffer : Bytes) : Bytes :=
  buffer.set ((stringAt buffer 0).takeWhile (· ≠ 10)).length 0

/-- `execute_client_action` with the result of `process_user_input`, up to the printer it chooses -/
def beginAction (buffer : Bytes) : Begun :=
  let line := endLine buffer
  if stringAt line 0 = bytesOf "end" then
    match printerCommand (bytesOf "end" ++ [0]) with
    | none => .crash
    | some command => .request ⟨endMessage, command, true⟩
  else if stringAt line 0 = [] then .returned .success
  else
    match buildJsonFromInput R line with
    | (.errorMemory _, _) => .returned .error
    | (.errorSyntax _, _) => .returned .success
    | (.crash, _) => .crash
    | (.success jsonString, t) =>
      match printerCommand t.mem with
      | none => .crash
      | some command => .request ⟨jsonString, command, false⟩

end

/-! ## the memory and the line -/

abbrev Tracks (t : Memory) (rest : Bytes) : Prop := Strtok.Tracks 0 t rest

abbrev Held (t : Memory) (i : Nat) (w : Bytes) : Prop := Strtok.Held 0 t i w

/-- `strtok` on the memory is `strtok` on the string -/
theorem strtok_spec {t : Memory} {rest : Bytes} (h : Tracks t rest) :
    (∃ t', strtok t = (none, t') ∧ Client.strtok rest = (none, []) ∧ Tracks t' [] ∧
        ∀ j v, Held t j v → Held t' j v) ∨
      ∃ i t' w r, strtok t = (some i, t') ∧ Client.strtok rest = (some w, r) ∧ Tracks t' r ∧
        Held t' i w ∧ Held t' t.saved (rest.takeWhile (fun b => decide (b = 32)) ++ w) ∧
        ∀ j v, Held t j v → Held t' j v :=
  Strtok.next_spec h

/-- a pointer that is null where there is no token, and points to it where there is one -/
inductive TokenAt (t : Memory) : Option Nat → Option Bytes → Prop
  | null : TokenAt t none none
  | token {i : Nat} {w : Bytes} (held : Held t i w) : TokenAt t (some i) (some w)

theorem TokenAt.mono {t t' : Memory} {i : Option Nat} {w : Option Bytes} (h : TokenAt t i w)
    (hheld : ∀ j v, Held t j v → Held t' j v) : TokenAt t' i w := by
  cases h with
  | null => exact .null
  | token held => exact .token (hheld _ _ held)

theorem strtok_at {t : Memory} {rest : Bytes} (h : Tracks t rest) :
    ∃ i t' w r, strtok t = (i, t') ∧ Client.strtok rest = (w, r) ∧ Tracks t' r ∧
      TokenAt t' i w ∧ ∀ j v, Held t j v → Held t' j v := by
  rcases strtok_spec h with ⟨t', hrun, heq, htracks, hheld⟩ |
    ⟨i, t', w, r, hrun, heq, htracks, htoken, -, hheld⟩
  · exact ⟨none, t', none, [], hrun, heq, htracks, .null, hheld⟩
  · exact ⟨some i, t', some w, r, hrun, heq, htracks, .token htoken, hheld⟩

/-- a builder on the memory builds what it should, and leaves alone what was cut off before -/
structure Builds (t : Memory) (r : BuildResult × Memory) (b : BuildResult) : Prop where
  result : r.1 = b
  held : ∀ j v, Held t j v → Held r.2 j v

section
variable {R : Runtime} {t : Memory} {i : Nat} {command rest : Bytes}

theorem builds_pair (first second usage note : String) (h : Tracks t rest)
    (hcommand : Held t i command) : Builds t (buildJsonForPair R first second usage note i t)
      (Client.buildJsonForPair R first second usage note command rest) := by
  obtain ⟨a, t₁, va, ra, hrun, heq, htracks, ha, hheld⟩ := strtok_at h
  obtain ⟨b, t₂, vb, rb, hrun', heq', -, hb, hheld'⟩ := strtok_at htracks
  have hall := fun j v hv => hheld' j v (hheld j v hv)
  unfold buildJsonForPair Client.buildJsonForPair
  simp only [hrun, heq, hrun', heq']
  refine ⟨?_, hall⟩
  -- the tokens are read where the memory still holds them
  cases ha.mono hheld' with
  | null => rfl
  | token first =>
    cases hb with
    | null => rfl
    | token second =>
      show printed R note _ = printed R note _
      unfold stringAt
      rw [(hall i command hcommand).string, first.string, second.string]

theorem builds_updateStock (h : Tracks t rest) (hcommand : Held t i command) :
    Builds t (buildJsonForUpdateStock R i t) (Client.buildJsonForUpdateStock R command rest) := by
  obtain ⟨a, t₁, va, ra, hrun, heq, htracks, ha, hheld⟩ := strtok_at h
  obtain ⟨b, t₂, vb, rb, hrun', heq', htracks', hb, hheld'⟩ := strtok_at htracks
  obtain ⟨c, t₃, vc, rc, hrun'', heq'', -, hc, hheld''⟩ := strtok_at htracks'
  have hall := fun j v hv => hheld'' j v (hheld' j v (hheld j v hv))
  unfold buildJsonForUpdateStock Client.buildJsonForUpdateStock
  simp only [hrun, heq, hrun', heq', hrun'', heq'']
  refine ⟨?_, hall⟩
  cases (ha.mono hheld').mono hheld'' with
  | null => rfl
  | token category =>
    cases hb.mono hheld'' with
    | null => rfl
    | token item =>
      cases hc with
      | null => rfl
      | token quantity =>
        obtain rfl := (hall i command hcommand).string
        obtain rfl := category.string
        obtain rfl := item.string
        obtain rfl := quantity.string
        rfl

theorem builds_singleCommand (hcommand : Held t i command) :
    Builds t (buildJsonForSingleCommand R i t) (Client.buildJsonForSingleCommand R command) := by
  refine ⟨?_, fun j v hv => hv⟩
  unfold buildJsonForSingleCommand stringAt
  rw [hcommand.string]

/-- the builders on the memory of a line; a line with a token keeps it, with what stands before -/
theorem buildJsonFromInput_spec {line : Bytes} (hends : Strtok.Ends 0 line 0) :
    (buildJsonFromInput R line).1 = Client.buildJsonFromInput R (stringAt line 0) ∧
      ∀ w r, Client.strtok (stringAt line 0) = (some w, r) →
        stringAt (buildJsonFromInput R line).2.mem 0 =
          (stringAt line 0).takeWhile (fun b => decide (b = 32)) ++ w := by
  have htracks : Tracks ⟨line, 0⟩ (stringAt line 0) := ⟨rfl, hends⟩
  unfold buildJsonFromInput Client.buildJsonFromInput
  rcases strtok_spec htracks with ⟨t, hrun, heq, -, -⟩ |
    ⟨i, t, w, rest, hrun, heq, htracks, htoken, hall, -⟩
  · rw [hrun, heq]
    exact ⟨rfl, nofun⟩
  · have hname : stringAt t.mem i = w := htoken.string
    -- every builder keeps the first token where it is
    have hbuilds : ∀ {r : BuildResult × Memory} {b : BuildResult}, Builds t r b → r.1 = b ∧
        ∀ w' r', (some w, rest) = (some w', r') → stringAt r.2.mem 0 =
          (stringAt line 0).takeWhile (fun b => decide (b = 32)) ++ w' := by
      intro r b h
      refine ⟨h.result, fun w' r' he => ?_⟩
      cases he
      exact (h.held _ _ hall).string
    rw [hrun, heq]
    simp only [hname]
    split_ifs
    · exact hbuilds (builds_updateStock htracks htoken)
    · exact hbuilds (builds_pair _ _ _ _ htracks htoken)
    · exact hbuilds (builds_pair _ _ _ _ htracks htoken)
    · exact hbuilds (builds_pair _ _ _ _ htracks htoken)
    · exact hbuilds (builds_pair _ _ _ _ htracks htoken)
    · exact hbuilds (builds_singleCommand htoken)

end

/-! ## the printer, and the whole line -/

theorem stringAt_append_nul (line junk : Bytes) :
    stringAt (line ++ 0 :: junk) 0 = cString line := by
  show (line ++ 0 :: junk).takeWhile _ = line.takeWhile _
  induction line with
  | nil => rfl
  | cons b line ih =>
    rw [List.cons_append, List.takeWhile_cons, List.takeWhile_cons, ih]

theorem printerCommand_eq {inputBuffer : Bytes}
    (h : (stringAt inputBuffer 0).length ≤ BUFFER_SIZE - 1) :
    printerCommand inputBuffer = (Client.strtok (stringAt inputBuffer 0)).1 := by
  unfold printerCommand
  rw [List.take_of_length_le h]
  generalize hline : stringAt inputBuffer 0 = line
  have htext : cString line = line := by
    rw [← hline]
    exact List.takeWhile_idem
  have htracks : Tracks ⟨line ++ [0], 0⟩ line :=
    ⟨(stringAt_append_nul line []).trans htext, List.mem_append_right _ List.mem_cons_self⟩
  rcases strtok_spec htracks with ⟨t, hrun, heq, -, -⟩ |
    ⟨i, t, w, rest, hrun, heq, -, htoken, -, -⟩
  · simp only [hrun, heq]
    rfl
  · simp only [hrun, heq]
    exact congrArg some htoken.string

theorem stringAt_endLine (buffer : Bytes) :
    stringAt (endLine buffer) 0 = (stringAt buffer 0).takeWhile (· ≠ 10) := by
  unfold endLine stringAt
  rw [Strtok.stringAt_set (Nat.zero_le _), Nat.sub_zero]
  exact List.prefix_iff_eq_take.mp (List.takeWhile_prefix _) |>.symm

theorem ends_endLine {buffer : Bytes} (h : Strtok.Ends 0 buffer 0) :
    Strtok.Ends 0 (endLine buffer) 0 := by
  have hmem : 0 ∈ buffer := h
  show 0 ∈ endLine buffer
  unfold endLine
  generalize ((stringAt buffer 0).takeWhile (· ≠ 10)).length = n
  by_cases hn : n < buffer.length
  · exact List.mem_set hn 0
  · rw [List.set_eq_of_length_le (not_lt.mp hn)]
    exact hmem

/-- **On a line that `fgets` can leave in the buffer, the functions on the memory do what they do on
the bytes of the line.** -/
theorem beginAction_eq (R : Runtime) {line : Bytes} (h : line.length < BUFFER_SIZE)
    (junk : Bytes) : beginAction R (line ++ 0 :: junk) = Client.beginAction R line := by
  have hline : stringAt (endLine (line ++ 0 :: junk)) 0 = (cString line).takeWhile (· ≠ 10) := by
    rw [stringAt_endLine, stringAt_append_nul]
  have hends : Strtok.Ends 0 (endLine (line ++ 0 :: junk)) 0 :=
    ends_endLine (List.mem_append_right _ List.mem_cons_self)
  have hlength : ((cString line).takeWhile (· ≠ 10)).length ≤ BUFFER_SIZE - 1 := by
    have hshort : ((cString line).takeWhile (· ≠ 10)).length ≤ line.length :=
      ((List.takeWhile_sublist _).trans (List.takeWhile_sublist _)).length_le
    omega
  obtain ⟨hresult, hfirst⟩ := buildJsonFromInput_spec (R := R) hends
  unfold beginAction Client.beginAction Client.processUserInput
  rw [hline] at hresult hfirst
  simp only [hline]
  generalize (cString line).takeWhile (· ≠ 10) = l at *
  by_cases hend : l = bytesOf "end"
  · rw [if_pos hend, if_pos hend]
    rfl
  rw [if_neg hend, if_neg hend]
  by_cases hnil : l = []
  · rw [if_pos hnil, if_pos hnil]
  rw [if_neg hnil, if_neg hnil]
  simp only
  cases htoken : Client.strtok l with
  | mk token rest =>
  cases token with
  | none =>
    have hcrash : Client.buildJsonFromInput R l = .crash := by
      unfold Client.buildJsonFromInput
      rw [htoken]
    rw [hcrash] at hresult ⊢
    generalize buildJsonFromInput R (endLine (line ++ 0 :: junk)) = r at hresult
    obtain ⟨b, t⟩ := r
    cases hresult
    rfl
  | some w =>
    have hstring := hfirst w rest htoken
    have hprinter : printerCommand (buildJsonFromInput R (endLine (line ++ 0 :: junk))).2.mem =
        some w := by
      rw [printerCommand_eq, hstring]
      · exact congrArg Prod.fst (Words.next_again htoken)
      · rw [hstring]
        exact le_trans (Words.next_front htoken) hlength
    rw [← hresult]
    generalize buildJsonFromInput R (endLine (line ++ 0 :: junk)) = r at hprinter
    obtain ⟨b, t⟩ := r
    cases b with
    | success jsonString =>
      simp only at hprinter
      simp only [hprinter, Option.getD_some]
    | errorSyntax message => rfl
    | errorMemory message => rfl
    | crash => rfl

end Buffer

/-! ## the command of the reply -/

/-- a message that is the text of an object with this command -/
def Names (message command : Bytes) : Prop :=
  ∃ root, message = root.print ∧ getObjectItem root (bytesOf "command") = some (.str command)

theorem names_obj (command : Bytes) (fields : List (Text × Tree)) :
    Names (Tree.obj ((bytesOf "command", .str command) :: fields)).print command := by
  refine ⟨_, rfl, ?_⟩
  have hfirst : sameKey (bytesOf "command") (bytesOf "command") = true := by decide
  unfold getObjectItem
  simp only [List.find?_cons, hfirst, Option.map_some]

/-- no comparison through a null pointer, and no message but one with this command -/
def BuildResult.For (command : Bytes) : BuildResult → Prop
  | .success jsonString => Names jsonString command
  | .errorSyntax _ => True
  | .errorMemory _ => True
  | .crash => False

section
variable (R : Runtime) (command rest : Bytes)

theorem printed_for (note : String) (fields : List (Text × Tree)) :
    (printed R note (.obj ((bytesOf "command", .str command) :: fields))).For command := by
  unfold printed
  split_ifs
  · exact names_obj command fields
  · trivial

theorem buildJsonForPair_for (first second usage note : String) :
    (buildJsonForPair R first second usage note command rest).For command := by
  unfold buildJsonForPair
  simp only
  split
  · exact printed_for R command note _
  · trivial

theorem buildJsonForUpdateStock_for : (buildJsonForUpdateStock R command rest).For command := by
  unfold buildJsonForUpdateStock
  simp only
  split
  · unfold updateStockObject
    split_ifs
    · split
      · trivial
      · exact names_obj command _
    · trivial
  · trivial

/-- what is built of a line with a token is sent with the token as the command -/
theorem buildJsonFromInput_for {line : Bytes} (h : strtok line = (some command, rest)) :
    (buildJsonFromInput R line).For command := by
  unfold buildJsonFromInput
  rw [h]
  simp only
  split_ifs
  · exact buildJsonForUpdateStock_for R command rest
  · exact buildJsonForPair_for R command rest _ _ _ _
  · exact buildJsonForPair_for R command rest _ _ _ _
  · exact buildJsonForPair_for R command rest _ _ _ _
  · exact buildJsonForPair_for R command rest _ _ _ _
  · exact printed_for R command _ _

end

/-- a line of spaces, without its end -/
def Blank (line : Bytes) : Prop :=
  (cString line).takeWhile (· ≠ 10) ≠ [] ∧ ∀ b ∈ (cString line).takeWhile (· ≠ 10), b = 32

theorem strtok_blank_iff (l : Bytes) : (strtok l).1 = none ↔ ∀ b ∈ l, b = 32 := by
  unfold strtok Words.next
  cases hdrop : l.dropWhile fun b => decide (b = 32) with
  | nil =>
    rw [List.dropWhile_eq_nil_iff] at hdrop
    exact iff_of_true rfl fun b hb => of_decide_eq_true (hdrop b hb)
  | cons a r =>
    refine iff_of_false nofun fun h => ?_
    have hnil : l.dropWhile (fun b => decide (b = 32)) = [] :=
      List.dropWhile_eq_nil_iff.mpr fun b hb => decide_eq_true (h b hb)
    rw [hdrop] at hnil
    cases hnil

/-- how far a line gets -/
theorem beginAction_cases (R : Runtime) (line : Bytes) :
    (beginAction R line = .crash ∧ Blank line) ∨
      (¬ Blank line ∧ ((∃ r, beginAction R line = .returned r) ∨
        ∃ q, beginAction R line = .request q ∧ Names q.message q.command)) := by
  unfold beginAction processUserInput Blank
  generalize (cString line).takeWhile (· ≠ 10) = l
  simp only
  by_cases hend : l = bytesOf "end"
  · rw [if_pos hend]
    refine .inr ⟨fun h => ?_, .inr ⟨_, rfl, names_obj (bytesOf "end") []⟩⟩
    rw [hend] at h
    exact absurd (h.2 101 (by decide)) (by decide)
  rw [if_neg hend]
  by_cases hnil : l = []
  · rw [if_pos hnil]
    exact .inr ⟨fun h => h.1 hnil, .inl ⟨_, rfl⟩⟩
  rw [if_neg hnil]
  simp only
  cases htoken : strtok l with
  | mk token rest =>
  have hblank := strtok_blank_iff l
  rw [htoken] at hblank
  cases token with
  | none =>
    have hcrash : buildJsonFromInput R l = .crash := by
      unfold buildJsonFromInput
      rw [htoken]
    rw [hcrash]
    exact .inl ⟨rfl, hnil, hblank.mp rfl⟩
  | some command =>
    have hnot : ¬ (l ≠ [] ∧ ∀ b ∈ l, b = 32) := by
      intro h
      cases hblank.mpr h.2
    have hfor := buildJsonFromInput_for R command rest htoken
    cases hbuild : buildJsonFromInput R l with
    | success jsonString =>
      rw [hbuild] at hfor
      exact .inr ⟨hnot, .inr ⟨_, rfl, hfor⟩⟩
    | errorSyntax message => exact .inr ⟨hnot, .inl ⟨_, rfl⟩⟩
    | errorMemory message => exact .inr ⟨hnot, .inl ⟨_, rfl⟩⟩
    | crash =>
      rw [hbuild] at hfor
      cases hfor

/-- **A line is handled without a comparison through a null pointer, and the reply is printed for
the command that was sent, exactly if the line is not made of spaces.** -/
theorem line_safe_iff (R : Runtime) (line junk : Bytes) (h : line.length < BUFFER_SIZE) :
    (Buffer.beginAction R (line ++ 0 :: junk) ≠ .crash ∧
        ∀ q, Buffer.beginAction R (line ++ 0 :: junk) = .request q →
          Names q.message q.command) ↔ ¬ Blank line := by
  rw [Buffer.beginAction_eq R h]
  rcases beginAction_cases R line with ⟨hcrash, hblank⟩ | ⟨hnot, ⟨r, hr⟩ | ⟨q, hq, hnames⟩⟩
  · exact iff_of_false (fun h => h.1 hcrash) fun h => h hblank
  · rw [hr]
    exact iff_of_true ⟨nofun, nofun⟩ hnot
  · rw [hq]
    refine iff_of_true ⟨nofun, fun q' hq' => ?_⟩ hnot
    cases hq'
    exact hnames

/-- a runtime that prints a double as zero and finds memory -/
def Runtime.sample : Runtime := ⟨fun _ => [48], true⟩

theorem line_safe_status :
    Buffer.beginAction .sample (bytesOf " status " ++ 10 :: 0 :: [7, 7]) ≠ .crash ∧
      ∀ q, Buffer.beginAction .sample (bytesOf " status " ++ 10 :: 0 :: [7, 7]) = .request q →
        Names q.message q.command := by
  have hline : (bytesOf " status " ++ [10]).length < BUFFER_SIZE := by decide
  exact (line_safe_iff .sample (bytesOf " status " ++ [10]) [7, 7] hline).mpr
    fun h => absurd (h.2 115 (by decide)) (by decide)

/-- a line of two spaces is taken for a command, and there is no token to compare -/
theorem spaces_crash :
    Buffer.beginAction .sample [32, 32, 10, 0] = .crash ∧ Blank [32, 32, 10] := by
  have hline : (cString [32, 32, 10]).takeWhile (· ≠ 10) = [32, 32] := rfl
  refine ⟨by decide, ?_⟩
  unfold Blank
  rw [hline]
  exact ⟨List.cons_ne_nil _ _, fun b hb => by simpa using hb⟩

end Client
end Logistics
