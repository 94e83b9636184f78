import Logistics.Session.Lifecycle

/-!
# Who gets an alert

`broadcastMessage` looks at the registry twice: it sends to the addresses of the sessions that are
registered at the first look, and queues for the users that are offline at the second.  Between the
two other threads register and unregister sessions and set addresses.

* `broadcastActive`, `broadcastOffline`   the two halves, each with one look (`broadcastMessage_eq`);
* `sentTo`, `queuedFor`    how often the alert is sent to a user, and queued for a user;
* `alert_once_iff`         **each user gets the alert once exactly if the two looks agree**.
-/

namespace Logistics
open Std Runs

def broadcastActive (L : Libs) (alertMessage : Json) : M Unit := do
  let addresses ← getActiveUdpAddresses
  broadcastTo (L.dump alertMessage) addresses
  log .info "UdpHandler"
    ("Broadcasted alert message to all connected clients: " ++ L.dump alertMessage) none

def broadcastOffline (L : Libs) (cfg : Config) (alertMessage : Json) : M Unit := do
  let offlineUsers ← getOfflineUsers
  queueFor cfg ⟨L.dump alertMessage⟩ offlineUsers.toList

theorem broadcastMessage_eq (L : Libs) (cfg : Config) (alertMessage : Json) :
    broadcastMessage L cfg alertMessage = (do
      broadcastActive L alertMessage
      broadcastOffline L cfg alertMessage) := by
  unfold broadcastMessage broadcastActive broadcastOffline
  rw [Prog.bind_assoc]
  congr 1
  funext addresses
  rw [Prog.bind_assoc]

/-! ## the sends -/

/-- the registered users whose sessions have an address, with it -/
def addressees (c : Core) : List (String × String) :=
  c.manager.activeSessions.toList.filterMap fun e =>
    (c.sessions e.2).udpAddress.map fun address => (e.1, address)

def sentTo (c : Core) (user : String) : Nat := ((addressees c).map Prod.fst).count user

theorem run_getActiveUdpAddresses (s : St) :
    getActiveUdpAddresses.run s = (.ok ((addressees s.core).map Prod.snd), s) := by
  have hmap : (addressees s.core).map Prod.snd = s.core.manager.activeSessions.toList.filterMap
      fun e => (s.core.sessions e.2).udpAddress := by
    unfold addressees
    rw [List.map_filterMap]
    congr 1
    funext e
    rw [Option.map_map]
    exact Option.map_id'
  rw [hmap]
  rfl

theorem sublist_filterMap_fst (entries : List (String × Nat)) (address : Nat → Option String) :
    ((entries.filterMap fun e => (address e.2).map fun a => (e.1, a)).map Prod.fst).Sublist
      (entries.map Prod.fst) := by
  induction entries with
  | nil => exact List.Sublist.refl _
  | cons e entries ih =>
    rw [List.filterMap_cons]
    cases address e.2 with
    | none => exact ih.cons e.1
    | some a => exact ih.cons_cons e.1

theorem nodup_addressees (c : Core) : ((addressees c).map Prod.fst).Nodup := by
  have hkeys : (c.manager.activeSessions.toList.map Prod.fst).Nodup := by
    rw [ExtTreeMap.map_fst_toList_eq_keys]
    exact ExtTreeMap.nodup_keys
  exact hkeys.sublist (sublist_filterMap_fst _ fun sid => (c.sessions sid).udpAddress)

/-- the user is registered with a session that has an address -/
def Addressed (c : Core) (user : String) : Prop :=
  ∃ sid address, c.manager.activeSessions[user]? = some sid ∧
    (c.sessions sid).udpAddress = some address

theorem mem_addressees_iff (c : Core) (user : String) :
    user ∈ (addressees c).map Prod.fst ↔ Addressed c user := by
  unfold addressees
  simp only [List.mem_map, List.mem_filterMap, Option.map_eq_some_iff]
  constructor
  · rintro ⟨e, ⟨entry, hentry, address, haddress, rfl⟩, rfl⟩
    exact ⟨entry.2, address, ExtTreeMap.mem_toList_iff_getElem?_eq_some.mp hentry, haddress⟩
  · rintro ⟨sid, address, hentry, haddress⟩
    exact ⟨(user, address), ⟨(user, sid), ExtTreeMap.mem_toList_iff_getElem?_eq_some.mpr hentry,
      address, haddress, rfl⟩, rfl⟩

theorem sentTo_of_addressed {c : Core} {user : String} (h : Addressed c user) : sentTo c user = 1 :=
  List.count_eq_one_of_mem (nodup_addressees c) ((mem_addressees_iff c user).mpr h)

theorem sentTo_of_not_addressed {c : Core} {user : String} (h : ¬ Addressed c user) :
    sentTo c user = 0 :=
  List.count_eq_zero.mpr fun hmem => h ((mem_addressees_iff c user).mp hmem)

/-- where no call fails, every address gets the message once, in order -/
theorem broadcastTo_datagrams (message : String) (addresses : List String) (s : St)
    (hfails : ∀ n, (s.env n).fails = false) :
    ((broadcastTo message addresses).run s).2.journal.datagrams =
      s.journal.datagrams ++ addresses.map fun address => (address, message) := by
  induction addresses generalizing s with
  | nil => exact (List.append_nil _).symm
  | cons address addresses ih =>
    have hnow := hfails 0
    unfold broadcastTo sendto
    simp only [Prog.run_bind, run_ask, hnow, Bool.false_eq_true, if_false, Prog.run_modify,
      Prog.run_pure, if_true]
    refine (ih _ ?_).trans ?_
    · intro n
      exact hfails (n + 1)
    · show (s.journal.datagrams ++ [(address, message)]) ++ addresses.map _ = _
      rw [List.append_assoc]
      rfl

theorem broadcastActive_datagrams (L : Libs) (alertMessage : Json) (s : St)
    (hfails : ∀ n, (s.env n).fails = false) :
    ((broadcastActive L alertMessage).run s).2.journal.datagrams =
      s.journal.datagrams ++ (addressees s.core).map fun a => (a.2, L.dump alertMessage) := by
  have hsends := broadcastTo_datagrams (L.dump alertMessage) ((addressees s.core).map Prod.snd) s
    hfails
  obtain ⟨s₁, hsent⟩ := broadcastTo_returns (L.dump alertMessage)
    ((addressees s.core).map Prod.snd) s
  rw [hsent, List.map_map] at hsends
  unfold broadcastActive
  rw [Prog.run_bind, run_getActiveUdpAddresses]
  dsimp only
  rw [Prog.run_bind, hsent]
  dsimp only
  rw [run_log, St.logged_datagrams]
  exact hsends

theorem broadcastActive_core (L : Libs) (alertMessage : Json) (s : St) :
    ((broadcastActive L alertMessage).run s).2.core = s.core := by
  have hkeeps : (broadcastActive L alertMessage).Keeps (onCore Eq) := by
    refine Prog.keeps_bind (keeps_of_core_eq fun _ => rfl) fun addresses => ?_
    exact Prog.keeps_bind (broadcastTo_keeps _ _) fun _ => log_keeps _ _ _ _
  exact (hkeeps s).symm

/-! ## the pushes -/

def queuedFor (c : Core) (user : String) : Nat := c.manager.offlineUsers.toList.count user

theorem queuedFor_of_mem {c : Core} {user : String} (h : user ∈ c.manager.offlineUsers) :
    queuedFor c user = 1 :=
  List.count_eq_one_of_mem (nodup_toList _) (ExtTreeSet.mem_toList.mpr h)

theorem queuedFor_of_not_mem {c : Core} {user : String} (h : user ∉ c.manager.offlineUsers) :
    queuedFor c user = 0 :=
  List.count_eq_zero.mpr fun hmem => h (ExtTreeSet.mem_toList.mp hmem)

/-- a user's queue is pushed to as often as the user is counted -/
theorem broadcastOffline_queue (L : Libs) (cfg : Config) (alertMessage : Json) (s : St)
    (user : String) : ((broadcastOffline L cfg alertMessage).run s).2.core.queue user =
      (pushed cfg ⟨L.dump alertMessage⟩)^[queuedFor s.core user] (s.core.queue user) := by
  have hqueue := queueFor_queue cfg ⟨L.dump alertMessage⟩ s.core.manager.offlineUsers.toList
    (nodup_toList _) s user
  unfold broadcastOffline
  rw [Prog.run_bind]
  show ((queueFor cfg _ s.core.manager.offlineUsers.toList).run s).2.core.queue user = _
  rw [hqueue]
  by_cases h : user ∈ s.core.manager.offlineUsers
  · rw [queuedFor_of_mem h, if_pos (ExtTreeSet.mem_toList.mpr h)]
    rfl
  · rw [queuedFor_of_not_mem h, if_neg fun hmem => h (ExtTreeSet.mem_toList.mp hmem)]
    rfl

/-! ## exactly once -/

section Between
variable {L : Libs} {cfg : Config}

theorem liveStep_connected {ℓ ℓ' : Live} {i : LiveInput} (h : liveStep L cfg ℓ i = some ℓ') :
    ℓ.presence.connected ⊆ ℓ'.presence.connected := by
  have hheard : ∀ sid input, ℓ.presence.connected ⊆
      ((heard L cfg sid input (ℓ.before i)).presence ℓ.ended).connected := by
    intro sid input
    rw [heard_presence]
    cases runLogin L cfg sid input (ℓ.before i) with
    | none => exact subset_rfl
    | some user => exact Presence.connected_subset_login sid user
  have hmoved := liveStep_moved h
  generalize ℓ'.presence = p at hmoved
  cases hmoved with
  | quiet what => exact subset_rfl
  | stayed what hopen hreturned => exact hheard _ _
  | left what hopen hread hreturned =>
    exact (hheard _ _).trans (Presence.connected_subset_leave _)
  | dropped what hopen => exact subset_rfl

theorem connected_run {ℓ ℓ' : Live} {inputs : List LiveInput}
    (h : runFrom (liveStep L cfg) ℓ inputs = some ℓ') :
    ℓ.presence.connected ⊆ ℓ'.presence.connected :=
  runFrom_invariant (I := fun ℓ' => ℓ.presence.connected ⊆ ℓ'.presence.connected) subset_rfl
    (fun _ _ _ hsub hstep => hsub.trans (liveStep_connected hstep)) inputs ℓ' h

end Between

/-- the server between the two halves, the first of which found it in `ℓ` -/
def Live.announced (L : Libs) (alertMessage : Json) (ℓ : Live) (env : Nat → Answer) : Live :=
  ⟨((broadcastActive L alertMessage).run (ℓ.world.facing env)).2.world, ℓ.ended⟩

theorem announced_core (L : Libs) (alertMessage : Json) (ℓ : Live) (env : Nat → Answer) :
    (ℓ.announced L alertMessage env).world.core = ℓ.world.core :=
  broadcastActive_core L alertMessage (ℓ.world.facing env)

theorem Live.Sound.announced {L : Libs} {ℓ : Live} (h : ℓ.Sound) (alertMessage : Json)
    (env : Nat → Answer) : (ℓ.announced L alertMessage env).Sound := by
  have hcore := announced_core L alertMessage ℓ env
  refine ⟨(sameLogins_of_sessions (congrArg Core.sessions hcore)).named h.named _, ?_⟩
  show Presence.Sound (Core.presence (ℓ.announced L alertMessage env).world.core ℓ.ended)
  rw [hcore]
  exact h.presence

/-- a user that was seen is registered or offline -/
theorem Live.Sound.active_iff {ℓ : Live} (h : ℓ.Sound) {user : String}
    (hseen : user ∈ ℓ.presence.connected) :
    user ∈ ℓ.world.core.manager.activeSessions ↔ user ∉ ℓ.world.core.manager.offlineUsers := by
  have hactive : user ∈ ℓ.world.core.manager.activeSessions ↔ ℓ.presence.active user ≠ none := by
    rw [← ExtTreeMap.isSome_getElem?_iff_mem, Option.isSome_iff_ne_none]
    exact Iff.rfl
  rw [hactive]
  constructor
  · intro hne hoffline
    exact hne (h.presence.apart user hoffline)
  · intro hoffline
    exact ((h.presence.connected_iff user).mp hseen).resolve_right hoffline

/-- **Each user seen before the broadcast gets the alert exactly once, whatever happens between the
two looks, exactly if the users with an address at the first look are those still registered at the
second.** -/
theorem alert_once_iff (L : Libs) (cfg : Config) (users : Users) (stock : Stock)
    (journal : Journal) (ips : Nat → String) (before : List LiveInput) (ℓ₁ : Live)
    (hbefore : runFrom (liveStep L cfg) (.start users stock journal ips) before = some ℓ₁)
    (alertMessage : Json) (env : Nat → Answer) (during : List LiveInput) (ℓ₂ : Live)
    (hduring : runFrom (liveStep L cfg) (ℓ₁.announced L alertMessage env) during = some ℓ₂) :
    (∀ user ∈ ℓ₁.world.core.manager.connectedUsers,
      sentTo ℓ₁.world.core user + queuedFor ℓ₂.world.core user = 1) ↔
    ∀ user ∈ ℓ₁.world.core.manager.connectedUsers,
      (Addressed ℓ₁.world.core user ↔ user ∈ ℓ₂.world.core.manager.activeSessions) := by
  have hannounced : (ℓ₁.announced L alertMessage env).Sound :=
    (sound_run users stock journal ips before hbefore).announced alertMessage env
  have hsound : ℓ₂.Sound :=
    runFrom_invariant hannounced (fun _ _ _ => liveStep_sound) during ℓ₂ hduring
  refine forall_congr' fun user => forall_congr' fun hseen => ?_
  have hseen' : user ∈ (ℓ₁.announced L alertMessage env).presence.connected := by
    show user ∈ (ℓ₁.announced L alertMessage env).world.core.manager.connectedUsers
    rw [announced_core]
    exact hseen
  rw [hsound.active_iff (connected_run hduring hseen')]
  by_cases haddressed : Addressed ℓ₁.world.core user
  · rw [sentTo_of_addressed haddressed]
    by_cases hoffline : user ∈ ℓ₂.world.core.manager.offlineUsers
    · rw [queuedFor_of_mem hoffline]
      exact iff_of_false (by omega) fun h => h.mp haddressed hoffline
    · rw [queuedFor_of_not_mem hoffline]
      exact iff_of_true rfl (iff_of_true haddressed hoffline)
  · rw [sentTo_of_not_addressed haddressed]
    by_cases hoffline : user ∈ ℓ₂.world.core.manager.offlineUsers
    · rw [queuedFor_of_mem hoffline]
      exact iff_of_true rfl (iff_of_false haddressed (not_not.mpr hoffline))
    · rw [queuedFor_of_not_mem hoffline]
      exact iff_of_false (by omega) fun h => haddressed (h.mpr hoffline)

/-! Alice is online, with the address that a keepalive brought, and bob has left; another keepalive
comes between the two looks. Without the keepalive alice has no address. -/

def aliceKeepalive : Json := .obj [("command", .str "keepalive"), ("clientId", .str "alice")]

def pingLibs : Libs := .known [aliceLogin, bobEnters, aliceKeepalive]

def bobCloses : LiveInput := ⟨.run 1 .closed, healthy⟩

def alicePings : LiveInput :=
  ⟨.datagram (.data "10.0.0.1:9000" (bytesOf aliceKeepalive.render)), healthy⟩

theorem alicePings_isSome : (runFrom (liveStep pingLibs .sample) crowdedLobby
    [aliceReads, bobReads, bobCloses, alicePings]).isSome := by
  decide

def bobGone : Live := (runFrom (liveStep pingLibs .sample) crowdedLobby
  [aliceReads, bobReads, bobCloses, alicePings]).get alicePings_isSome

theorem pingsAgain_isSome : (runFrom (liveStep pingLibs .sample)
    (bobGone.announced pingLibs .null healthy) [alicePings]).isSome := by
  decide

def bobStillGone : Live := (runFrom (liveStep pingLibs .sample)
  (bobGone.announced pingLibs .null healthy) [alicePings]).get pingsAgain_isSome

theorem alert_once_alice : bobGone.world.core.manager.connectedUsers = {"alice", "bob"} ∧
    sentTo bobGone.world.core "alice" = 1 ∧
    queuedFor bobStillGone.world.core "bob" = 1 ∧
    ∀ user ∈ bobGone.world.core.manager.connectedUsers,
      sentTo bobGone.world.core user + queuedFor bobStillGone.world.core user = 1 := by
  have hconnected : bobGone.world.core.manager.connectedUsers = {"alice", "bob"} := by decide
  have hbob : ¬ Addressed bobGone.world.core "bob" := by
    rintro ⟨sid, address, hactive, -⟩
    revert hactive
    rw [show bobGone.world.core.manager.activeSessions["bob"]? = none by decide]
    exact nofun
  refine ⟨hconnected, by decide, by decide,
    (alert_once_iff pingLibs .sample twoUsers .empty .empty (fun _ => "10.0.0.1")
      [aliceReads, bobReads, bobCloses, alicePings] bobGone
      (Option.some_get alicePings_isSome).symm .null healthy [alicePings] bobStillGone
      (Option.some_get pingsAgain_isSome).symm).mpr ?_⟩
  intro user huser
  rw [hconnected, Finset.mem_insert, Finset.mem_singleton] at huser
  rcases huser with rfl | rfl
  · exact iff_of_true ⟨0, "10.0.0.1:9000", by decide, by decide⟩ (by decide)
  · exact iff_of_false hbob (by decide)

theorem unaddressed_user_gets_no_alert :
    runFrom (liveStep (.known [aliceLogin]) .sample) aliceLobby [aliceReads] = some aliceOnline ∧
    "alice" ∈ aliceOnline.world.core.manager.connectedUsers ∧
    sentTo aliceOnline.world.core "alice" = 0 ∧
    queuedFor (aliceOnline.announced (.known [aliceLogin]) .null healthy).world.core "alice" = 0 := by
  refine ⟨(Option.some_get aliceReads_isSome).symm, ?_, ?_, ?_⟩ <;> decide

end Logistics
