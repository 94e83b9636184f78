import Logistics.Client.Transaction
import Logistics.Session.Unlock

/-!
# The configured phrase, typed

The admin types `unlock_client`, a user and the configured phrase into the client.  The line goes
through `fgets` and `strtok` and becomes a JSON text, and of that the server reads 255 bytes at once
and compares the phrase in it with its own.

* `fgets`, `typedLine`      the line that is left in the buffer of what was typed;
* `typedLine_append`        what has no newline and no NUL stays at its front;
* `parse_cut`               the server reads the request whole, or nothing;
* `phrase_typable_iff`      **the line clears the flag exactly if the phrase can be typed**;
* `shipped_phrase_is_wrong` the phrase of the shipped configuration.
-/

namespace Logistics

namespace Client
open JsonText

/-! ## the line -/

/-- `fgets(buffer, size, stdin)`: what was typed up to the first newline, as far as it fits -/
def fgets (size : Nat) (typed : Bytes) : Bytes :=
  (typed.take ((typed.takeWhile (· ≠ 10)).length + 1)).take (size - 1)

/-- what `process_user_input` leaves of it -/
def typedLine (typed : Bytes) : Bytes :=
  (cString (fgets BUFFER_SIZE typed)).takeWhile (· ≠ 10)

/-- no NUL and no newline -/
def OneLine (s : Bytes) : Prop := ∀ b ∈ s, b ≠ 0 ∧ b ≠ 10

theorem typedLine_oneLine (typed : Bytes) : OneLine (typedLine typed) := by
  intro b hb
  have hline := List.mem_takeWhile_imp hb
  have hcut := List.mem_takeWhile_imp ((List.takeWhile_prefix _).subset hb)
  exact ⟨of_decide_eq_true hcut, of_decide_eq_true hline⟩

/-- **What fits into the buffer and has no newline and no NUL stands at the front of the line.** -/
theorem typedLine_append {x : Bytes} (hx : OneLine x) (hfits : x.length ≤ BUFFER_SIZE - 1)
    (y : Bytes) : ∃ z, z <+: y ∧ typedLine (x ++ y) = x ++ z := by
  have htake : ∀ {n : Nat} (z : Bytes), x.length ≤ n →
      (x ++ z).take n = x ++ z.take (n - x.length) := by
    intro n z hn
    rw [List.take_append, List.take_of_length_le hn]
  have hread : ∃ z, z <+: y ∧ fgets BUFFER_SIZE (x ++ y) = x ++ z := by
    unfold fgets
    rw [List.takeWhile_append_of_pos fun b hb => decide_eq_true (hx b hb).2, List.length_append,
      htake y (by omega), htake _ hfits]
    exact ⟨_, (List.take_prefix _ _).trans (List.take_prefix _ y), rfl⟩
  obtain ⟨z, hz, hread⟩ := hread
  unfold typedLine cString
  rw [hread, List.takeWhile_append_of_pos fun b hb => decide_eq_true (hx b hb).1,
    List.takeWhile_append_of_pos fun b hb => decide_eq_true (hx b hb).2]
  exact ⟨_, ((List.takeWhile_prefix _).trans (List.takeWhile_prefix _)).trans hz, rfl⟩

/-- the newline is not part of the line -/
theorem typedLine_newline {x : Bytes} (hx : OneLine x) (hfits : x.length ≤ BUFFER_SIZE - 1)
    (y : Bytes) : ∃ z, z <+: y ∧ typedLine (x ++ (y ++ [10])) = x ++ z := by
  obtain ⟨z, hz, hline⟩ := typedLine_append hx hfits (y ++ [10])
  rcases List.prefix_concat_iff.mp hz with rfl | hz
  · have hmem : (10 : UInt8) ∈ typedLine (x ++ (y ++ [10])) := by
      rw [hline]
      simp
    exact absurd rfl (typedLine_oneLine _ 10 hmem).2
  · exact ⟨z, hz, hline⟩

/-! ## the request -/

/-- what the builder for `unlock_client` prints for two tokens -/
def unlockTree (client phrase : Bytes) : Tree :=
  .obj [(bytesOf "command", .str (bytesOf "unlock_client")), (bytesOf "payload",
    .obj [(bytesOf "client_to_unlock", .str client), (bytesOf "secret_phrase", .str phrase)])]

def unlockLineRequest (client phrase : String) : Json :=
  pairRequest "unlock_client" "client_to_unlock" client "secret_phrase" phrase

variable {F : Doubles} {R : Runtime}

theorem tokens_unlock (rest : Bytes) :
    tokens (bytesOf "unlock_client" ++ 32 :: rest) = bytesOf "unlock_client" :: tokens rest := by
  have hletters : ((bytesOf "unlock_client").all fun b => !decide (b = 32)) = true := by decide
  unfold tokens
  rw [Words.words_append_cons rfl, Words.words_of_letters _ (by decide)]
  · rfl
  · intro b hb
    have hletter := List.all_eq_true.mp hletters b hb
    rwa [Bool.not_eq_true'] at hletter

/-- a line that starts with `unlock_client` and a space -/
theorem beginAction_unlock {typed rest : Bytes}
    (hline : typedLine typed = bytesOf "unlock_client" ++ 32 :: rest) :
    ∃ r, tokens r = tokens rest ∧ beginAction R (fgets BUFFER_SIZE typed) =
      match buildJsonForUnlockClient R (bytesOf "unlock_client") r with
      | .errorMemory _ => .returned .error
      | .errorSyntax _ => .returned .success
      | .crash => .crash
      | .success jsonString => .request ⟨jsonString, bytesOf "unlock_client", false⟩ := by
  obtain ⟨r, hr, htokens⟩ := strtok_cons (tokens_unlock rest)
  have hhead : (typedLine typed).head? = some 117 := by
    rw [hline]
    rfl
  have hsend : processUserInput (fgets BUFFER_SIZE typed) = (.send, typedLine typed) := by
    have hend : typedLine typed ≠ bytesOf "end" := by
      intro h
      rw [h] at hhead
      exact absurd hhead (by decide)
    have hempty : typedLine typed ≠ [] := by
      intro h
      rw [h] at hhead
      cases hhead
    have hline : (cString (fgets BUFFER_SIZE typed)).takeWhile (· ≠ 10) = typedLine typed := rfl
    unfold processUserInput
    simp only [hline, if_neg hend, if_neg hempty]
  have hbuild : buildJsonFromInput R (typedLine typed) =
      buildJsonForUnlockClient R (bytesOf "unlock_client") r := by
    unfold buildJsonFromInput
    rw [hline, hr]
    dsimp only
    rw [if_neg (by decide), if_neg (by decide), if_neg (by decide), if_pos rfl]
  refine ⟨r, htokens, ?_⟩
  unfold beginAction
  rw [hsend]
  simp only
  rw [hbuild, hline, hr]
  rfl

/-- a request comes from two tokens -/
theorem beginAction_request {typed rest : Bytes}
    (hline : typedLine typed = bytesOf "unlock_client" ++ 32 :: rest) {q : Request}
    (h : beginAction R (fgets BUFFER_SIZE typed) = .request q) :
    ∃ client phrase others, tokens rest = client :: phrase :: others ∧
      q.message = (unlockTree client phrase).print := by
  obtain ⟨r, htokens, hbegin⟩ := beginAction_unlock (R := R) hline
  rw [hbegin, buildJsonForUnlockClient, buildJsonForPair_eq, htokens] at h
  match hargs : tokens rest with
  | [] =>
    rw [hargs] at h
    cases h
  | [client] =>
    rw [hargs] at h
    cases h
  | client :: phrase :: others =>
    refine ⟨client, phrase, others, rfl, ?_⟩
    rw [hargs] at h
    rcases printed_cases (R := R) "Error creating the cJSON object for unlock_client."
      (unlockTree client phrase) with ⟨-, hp⟩ | ⟨-, hp⟩
    · simp only [unlockTree] at hp h ⊢
      rw [hp] at h
      cases h
      rfl
    · simp only [unlockTree] at hp h
      rw [hp] at h
      cases h

/-- two tokens are sent as a request -/
theorem beginAction_tokens {typed rest client phrase : Bytes} (hcreated : R.created = true)
    (hline : typedLine typed = bytesOf "unlock_client" ++ 32 :: rest)
    (hrest : tokens rest = [client, phrase]) :
    ∃ q, beginAction R (fgets BUFFER_SIZE typed) = .request q ∧
      q.message = (unlockTree client phrase).print := by
  obtain ⟨r, htokens, hbegin⟩ := beginAction_unlock (R := R) hline
  rw [hbegin, buildJsonForUnlockClient, buildJsonForPair_eq, htokens, hrest]
  simp only [printed, hcreated, if_true]
  exact ⟨_, rfl, rfl⟩

/-- **What the server reads of the request: the request whole, or nothing.** -/
theorem parse_cut {n : Nat} (hn : 0 < n) {client phrase : Bytes} {request : Json}
    (h : Json.parse F ((unlockTree client phrase).print.take n) = some request) :
    (unlockTree client phrase).print.length ≤ n ∧ ∃ client' phrase',
      client = bytesOf client' ∧ phrase = bytesOf phrase' ∧
      request = unlockLineRequest client' phrase' := by
  have hnumbers : ∀ l ∈ (unlockTree client phrase).numbers, nlohmann.Reads l := nofun
  have hprint := List.take_append_drop n (unlockTree client phrase).print
  unfold Json.parse at h
  obtain ⟨⟨v, r⟩, hdocument, h⟩ := Option.bind_eq_some_iff.mp h
  have hall : (unlockTree client phrase).print.drop n = [] := by
    refine document_cut nlohmann_splits nlohmann_stable nlohmann_plain hnumbers hprint.symm ?_
      hdocument
    obtain ⟨k, rfl⟩ := Nat.exists_eq_add_of_lt hn
    rw [unlockTree, Tree.print, Nat.zero_add, List.take_succ_cons]
    exact List.cons_ne_nil _ _
  refine ⟨List.drop_eq_nil_iff.mp hall, ?_⟩
  rw [hall, List.append_nil] at hprint
  rw [hprint, document_print nlohmann_plain hnumbers] at hdocument
  cases hdocument
  split_ifs at h with hend
  obtain ⟨client', phrase', rfl, rfl⟩ : ∃ client' phrase',
      client = bytesOf client' ∧ phrase = bytesOf phrase' := by
    simp only [unlockTree, Json.ofTree, ofFields, decode_bytesOf, Option.bind_some,
      Option.map_some] at h
    cases hclient : decode client with
    | none =>
      rw [hclient] at h
      cases h
    | some client' =>
      cases hphrase : decode phrase with
      | none =>
        rw [hclient, hphrase] at h
        cases h
      | some phrase' =>
        exact ⟨client', phrase', (decode_eq_some_iff.mp hclient).symm,
          (decode_eq_some_iff.mp hphrase).symm⟩
  refine ⟨client', phrase', rfl, rfl, ?_⟩
  have htree : Json.ofTree F (unlockTree (bytesOf client') (bytesOf phrase')) =
      some (unlockLineRequest client' phrase') :=
    (pairRequest_canonical (by decide) _ _ _).ofTree_tree F
  rw [htree] at h
  exact (Option.some.inj h).symm

theorem length_unlockTree (client phrase : Bytes) :
    client.length + phrase.length ≤ (unlockTree client phrase).print.length := by
  have hclient := length_le_flatMap_escape client
  have hphrase := length_le_flatMap_escape phrase
  simp only [unlockTree, Tree.print, printFields, quoted, List.length_cons, List.length_append]
  omega

theorem print_unlockTree (client phrase : String) :
    (unlockTree (bytesOf client) (bytesOf phrase)).print =
      bytesOf (unlockLineRequest client phrase).render := by
  rw [bytesOf_render]
  rfl

end Client

/-! ## the phrase -/

section
open Client

/-- what is typed to clear the flag of a user, without its newline -/
def unlockText (user phrase : String) : Bytes :=
  bytesOf "unlock_client" ++ 32 :: (bytesOf user ++ 32 :: bytesOf phrase)

/-- the line makes the server clear the flag of the user and answer with success -/
def ClearsByLine (L : Libs) (cfg : Config) (R : Runtime) (w : World) (env : Nat → Answer)
    (sid : Nat) (user : String) : Prop :=
  ∃ q answer keep s', beginAction R
      (fgets Client.BUFFER_SIZE (unlockText user cfg.secretPhrase ++ [10])) = .request q ∧
    (processMessage L cfg sid (q.message.take (BUFFER_SIZE - 1))).run (w.facing env) =
      (.ok (answer, keep), s') ∧
    answer.status = some "success" ∧ FlagCleared user w.core s'.core

/-- one line, a phrase without a space, and a request that is read at once -/
structure Typable (user phrase : String) : Prop where
  line : OneLine (bytesOf user ++ bytesOf phrase)
  word : 32 ∉ bytesOf phrase
  fits : (bytesOf (unlockLineRequest user phrase).render).length ≤ BUFFER_SIZE - 1

theorem oneLine_append {x y : Bytes} : OneLine (x ++ y) ↔ OneLine x ∧ OneLine y :=
  List.forall_mem_append

theorem oneLine_unlock : OneLine (bytesOf "unlock_client" ++ [32]) := by
  have hall : ((bytesOf "unlock_client" ++ [32]).all fun b => decide (b ≠ 0 ∧ b ≠ 10)) = true := by
    decide
  exact fun b hb => of_decide_eq_true (List.all_eq_true.mp hall b hb)

variable {F : Doubles} {L : Libs} {cfg : Config} {R : Runtime} {w : World} {env : Nat → Answer}
  {sid : Nat} {user : String}

/-- a registered user has a name -/
theorem bytesOf_user_ne (huser : (w.core.users.find? user).isSome) : bytesOf user ≠ [] := by
  obtain ⟨row, hrow⟩ := Option.isSome_iff_exists.mp huser
  intro hempty
  obtain rfl : user = "" := bytesOf_injective hempty
  exact absurd (w.core.users.checked _ _ hrow).1 (by decide)

theorem letters_of_not_mem {s : Bytes} (h : 32 ∉ s) : ∀ b ∈ s, decide (b = 32) = false := by
  intro b hb
  refine decide_eq_false ?_
  rintro rfl
  exact h hb

theorem tokens_user (hspace : 32 ∉ bytesOf user) (hne : bytesOf user ≠ []) (rest : Bytes) :
    tokens (bytesOf user ++ 32 :: rest) = bytesOf user :: tokens rest := by
  unfold tokens
  rw [Words.words_append_cons rfl, Words.words_of_letters (letters_of_not_mem hspace) hne]
  rfl

/-- what the client sends: the user, and the first word of what is left of the phrase -/
theorem sent_unlock (hspace : 32 ∉ bytesOf user) (hne : bytesOf user ≠ []) {phrase : String}
    {q : Request}
    (h : beginAction R (fgets Client.BUFFER_SIZE (unlockText user phrase ++ [10])) = .request q) :
    ∃ left token others, left <+: bytesOf phrase ∧ tokens left = token :: others ∧
      typedLine (unlockText user phrase ++ [10]) =
        bytesOf "unlock_client" ++ 32 :: (bytesOf user ++ 32 :: left) ∧
      q.message = (unlockTree (bytesOf user) token).print := by
  obtain ⟨z, hz, hline⟩ := typedLine_newline oneLine_unlock (by decide)
    (bytesOf user ++ 32 :: bytesOf phrase)
  have htyped : bytesOf "unlock_client" ++ [32] ++ (bytesOf user ++ 32 :: bytesOf phrase ++ [10]) =
      unlockText user phrase ++ [10] := by simp [unlockText]
  have hline : typedLine (unlockText user phrase ++ [10]) = bytesOf "unlock_client" ++ 32 :: z := by
    rw [← htyped, hline]
    simp
  obtain ⟨client, token, others, htokens, hmessage⟩ := beginAction_request hline h
  have htwo : 2 ≤ (tokens z).length := by
    rw [htokens, List.length_cons, List.length_cons]
    omega
  obtain ⟨left, hleft, rfl⟩ := Words.words_front (letters_of_not_mem hspace) hz htwo
  rw [tokens_user hspace hne] at htokens
  obtain ⟨rfl, hothers⟩ := List.cons.inj htokens
  exact ⟨left, token, others, hleft, hothers, hline, hmessage⟩

/-- a line that can be typed is sent whole -/
theorem begin_typable (hcreated : R.created = true) (hspace : 32 ∉ bytesOf user)
    (hne : bytesOf user ≠ []) {phrase : String} (hphrase : phrase ≠ "") (h : Typable user phrase) :
    ∃ q, beginAction R (fgets Client.BUFFER_SIZE (unlockText user phrase ++ [10])) = .request q ∧
      q.message = (unlockTree (bytesOf user) (bytesOf phrase)).print := by
  have htext : OneLine (unlockText user phrase) := by
    have hsplit : unlockText user phrase =
        (bytesOf "unlock_client" ++ [32]) ++ (bytesOf user ++ ([32] ++ bytesOf phrase)) := by
      simp [unlockText]
    obtain ⟨huser, hphrase⟩ := oneLine_append.mp h.line
    have hsep : OneLine [32] := (oneLine_append.mp oneLine_unlock).2
    rw [hsplit]
    exact oneLine_append.mpr
      ⟨oneLine_unlock, oneLine_append.mpr ⟨huser, oneLine_append.mpr ⟨hsep, hphrase⟩⟩⟩
  have hlength : (unlockText user phrase).length ≤ Client.BUFFER_SIZE - 1 := by
    have hprint := length_unlockTree (bytesOf user) (bytesOf phrase)
    have hfits := h.fits
    rw [← print_unlockTree] at hfits
    have hcommand : (bytesOf "unlock_client").length = 13 := rfl
    unfold unlockText
    rw [List.length_append, List.length_cons, List.length_append, List.length_cons, hcommand]
    unfold BUFFER_SIZE at hfits
    unfold Client.BUFFER_SIZE
    omega
  obtain ⟨z, hz, hline⟩ := typedLine_newline htext hlength []
  obtain rfl := List.prefix_nil.mp hz
  rw [List.nil_append, List.append_nil] at hline
  refine beginAction_tokens hcreated hline ?_
  have hphrase : bytesOf phrase ≠ [] := fun hempty => hphrase (bytesOf_injective hempty)
  rw [tokens_user hspace hne, tokens, Words.words_of_letters (letters_of_not_mem h.word) hphrase]

/-- the server answers with success only to the phrase itself -/
theorem success_phrase (hadmin : AuthenticatedAs w sid "admin") {client phrase : Bytes}
    {answer : Reply} {keep : Bool} {s' : St}
    (hrun : (processMessage (L.standard F) cfg sid
      ((unlockTree client phrase).print.take (BUFFER_SIZE - 1))).run (w.facing env) =
        (.ok (answer, keep), s'))
    (hsuccess : answer.status = some "success") :
    (unlockTree client phrase).print.length ≤ BUFFER_SIZE - 1 ∧
      phrase = bytesOf cfg.secretPhrase := by
  cases hparse : (L.standard F).parse ((unlockTree client phrase).print.take (BUFFER_SIZE - 1)) with
  | none =>
    obtain ⟨s'', hinvalid, -⟩ := run_processMessage_invalid (L.standard F) cfg sid (w.facing env)
      hparse
    rw [hrun] at hinvalid
    cases hinvalid
    exact absurd hsuccess (by decide)
  | some request =>
    have hread := hparse
    rw [Libs.standard_parse] at hread
    obtain ⟨hfits, client', phrase', rfl, rfl, rfl⟩ :=
      parse_cut (show 0 < BUFFER_SIZE - 1 by decide) hread
    refine ⟨hfits, ?_⟩
    rw [run_processMessage_member (L.standard F) cfg hparse hadmin.1] at hrun
    obtain ⟨answer', keep', s'', hcommand, houtcome⟩ := commandMessage_outcome (L.standard F) cfg
      ((w.facing env).core.sessions sid).clientID (unlockLineRequest client' phrase')
      (received (L.standard F) (unlockLineRequest client' phrase') (w.facing env))
    rw [hrun] at hcommand
    cases hcommand
    have hname : (unlockLineRequest client' phrase').atString "command" = .ok "unlock_client" := rfl
    generalize s'.core = c' at houtcome
    cases houtcome with
    | refused error =>
      rw [error] at hsuccess
      exact absurd (Option.some.inj hsuccess) (by decide)
    | read success command reads coherent =>
      rw [hname] at command
      cases command
      exact absurd (.inr (.inr rfl)) reads
    | updated success command =>
      rw [hname] at command
      exact absurd (Except.ok.inj command) (by decide)
    | unlocked success command admin fields =>
      cases fields
      rfl
    | registered success command =>
      rw [hname] at command
      exact absurd (Except.ok.inj command) (by decide)

/-- **The phrase can be typed exactly if it has no space, the line is one line and the request is
read at once.** -/
theorem phrase_typable_iff (F : Doubles) (L : Libs) (hjson : L.Nlohmann F) (cfg : Config)
    (R : Runtime) (w : World) (env : Nat → Answer) (sid : Nat) (user : String)
    (hadmin : AuthenticatedAs w sid "admin") (huser : (w.core.users.find? user).isSome)
    (hspace : 32 ∉ bytesOf user) (hhealthy : ∀ n, (env n).fails = false)
    (hcreated : R.created = true) :
    ClearsByLine L cfg R w env sid user ↔ Typable user cfg.secretPhrase := by
  obtain ⟨L, rfl⟩ := hjson.standard
  have hne := bytesOf_user_ne huser
  constructor
  · rintro ⟨q, answer, keep, s', hbegin, hrun, hsuccess, -⟩
    obtain ⟨left, token, others, hleft, htokens, hline, hmessage⟩ := sent_unlock hspace hne hbegin
    rw [hmessage] at hrun
    obtain ⟨hfits, rfl⟩ := success_phrase hadmin hrun hsuccess
    -- the whole phrase is one word of a part of it, so the part is all of it
    obtain ⟨r, hnext, -⟩ := Words.next_cons htokens
    have hlength := Words.next_front hnext
    rw [List.length_append] at hlength
    obtain rfl : left = bytesOf cfg.secretPhrase :=
      hleft.eq_of_length (le_antisymm hleft.length_le (by omega))
    have honeLine := typedLine_oneLine (unlockText user cfg.secretPhrase ++ [10])
    rw [hline] at honeLine
    refine ⟨?_, ?_, ?_⟩
    · intro b hb
      refine honeLine b ?_
      rcases List.mem_append.mp hb with hb | hb
      · simp [hb]
      · simp [hb]
    · intro hmem
      exact absurd rfl (of_decide_eq_false (Words.next_letters hnext 32 hmem))
    · rw [← print_unlockTree]
      exact hfits
  · intro htypable
    obtain ⟨q, hbegin, hmessage⟩ := begin_typable hcreated hspace hne cfg.phrase_ne htypable
    rw [print_unlockTree] at hmessage
    have hparse : (L.standard F).parse (q.message.take (BUFFER_SIZE - 1)) =
        some (unlockLineRequest user cfg.secretPhrase) := by
      rw [hmessage, List.take_of_length_le htypable.fits, Libs.standard_parse, bytesOf_render]
      exact parse_print (pairRequest_canonical (by decide) _ _ _)
    have hsent : Sent (L.standard F) "admin" "unlock_client" w
        ⟨.message sid (q.message.take (BUFFER_SIZE - 1)), env⟩ sid
        (q.message.take (BUFFER_SIZE - 1)) (unlockLineRequest user cfg.secretPhrase) :=
      ⟨rfl, hadmin, hparse, rfl⟩
    obtain ⟨row, hrow⟩ := Option.isSome_iff_exists.mp huser
    obtain ⟨answer, s', hrun, hsuccess, hcleared⟩ := hsent.unlock rfl hrow hhealthy
    exact ⟨q, answer, true, s', hbegin, hrun, hsuccess, hcleared⟩

/-! Alice is locked, and the admin sits at a client. -/

def deskWorld : World :=
  ⟨{ adminWorld.core with users := lockedStart.core.users }, adminWorld.journal⟩

def oneWordConfig : Config :=
  { Config.sample with secretPhrase := "sesame", phrase_ne := by decide }

theorem sesame_typed : AuthenticatedAs deskWorld 0 "admin" ∧ Flagged deskWorld.core "alice" ∧
    ClearsByLine sampleLibs oneWordConfig plainRuntime deskWorld healthy 0 "alice" := by
  refine ⟨⟨rfl, rfl⟩, ⟨_, rfl, rfl⟩, ?_⟩
  refine (phrase_typable_iff .sample sampleLibs ⟨rfl, rfl⟩ _ _ _ _ _ _ ⟨rfl, rfl⟩ rfl (by decide)
    (fun _ => rfl) rfl).mpr ⟨?_, by decide, by decide⟩
  have hall : ((bytesOf "alice" ++ bytesOf "sesame").all fun b =>
      decide (b ≠ 0 ∧ b ≠ 10)) = true := by decide
  exact fun b hb => of_decide_eq_true (List.all_eq_true.mp hall b hb)

/-- the phrase of `etc/config.yaml` -/
def shippedConfig : Config :=
  { Config.sample with secretPhrase := "we do not assembly", phrase_ne := by decide }

/-- of the shipped phrase only the first word is sent, and the server calls it wrong -/
theorem shipped_phrase_is_wrong :
    AuthenticatedAs deskWorld 0 "admin" ∧ Flagged deskWorld.core "alice" ∧
    (∃ q, beginAction plainRuntime
        (fgets Client.BUFFER_SIZE (unlockText "alice" shippedConfig.secretPhrase ++ [10])) =
          .request q ∧
      ((processMessage sampleLibs shippedConfig 0 (q.message.take (BUFFER_SIZE - 1))).run
        (deskWorld.facing healthy)).1 =
          .ok (reply sampleLibs "error" "Wrong secret phrase. Try again.")) ∧
    ¬ ClearsByLine sampleLibs shippedConfig plainRuntime deskWorld healthy 0 "alice" := by
  have hbegin : beginAction plainRuntime
      (fgets Client.BUFFER_SIZE (unlockText "alice" shippedConfig.secretPhrase ++ [10])) =
        .request ⟨bytesOf (unlockLineRequest "alice" "we").render, bytesOf "unlock_client",
          false⟩ := by
    decide +kernel
  have hparse : sampleLibs.parse
      ((bytesOf (unlockLineRequest "alice" "we").render).take (BUFFER_SIZE - 1)) =
        some (unlockLineRequest "alice" "we") := by
    rw [List.take_of_length_le (by decide), Libs.standard_parse, bytesOf_render]
    exact parse_print (pairRequest_canonical (by decide) _ _ _)
  have hrun : ((processMessage sampleLibs shippedConfig 0
      ((bytesOf (unlockLineRequest "alice" "we").render).take (BUFFER_SIZE - 1))).run
        (deskWorld.facing healthy)).1 =
          .ok (reply sampleLibs "error" "Wrong secret phrase. Try again.") := by
    rw [run_processMessage_member sampleLibs shippedConfig hparse rfl]
    rfl
  refine ⟨⟨rfl, rfl⟩, ⟨_, rfl, rfl⟩, ⟨_, hbegin, hrun⟩, ?_⟩
  rintro ⟨q, answer, keep, s', hq, hanswer, hsuccess, -⟩
  rw [hbegin] at hq
  cases hq
  rw [hanswer] at hrun
  cases hrun
  exact absurd hsuccess (by decide)

end

end Logistics
