import Logistics.Session.ClientSession

/-!
# Requests and reads

TCP carries bytes: the kernel may cut the stream of requests anywhere into the chunks that
successive `read` calls return.  `run` takes each chunk, up to its first NUL, for one request.

* `Cut`                     a way to cut the requests' bytes into reads of at most 255 bytes;
* `handed`, `serve_eq`      what `run` hands to `processMessage`, on which alone all depends;
* `requests_handed_iff`     **requests arrive exactly if reads are whole and no request has a NUL**;
* `split_login_is_lost`     a login in two reads.
-/

namespace Logistics

/-- the chunks returned by the `read` calls that took in the whole stream of the requests -/
structure Cut (requests chunks : List Bytes) : Prop where
  stream : chunks.flatten = requests.flatten
  nonempty : ∀ chunk ∈ chunks, chunk ≠ []
  fits : ∀ chunk ∈ chunks, chunk.length ≤ BUFFER_SIZE - 1

def handed (chunks : List Bytes) : List Bytes := chunks.map cString

section
variable (L : Libs) (cfg : Config) (sid : Nat)

/-- `run` on one read after the other, while the session is kept -/
def serve : List Bytes → M Bool
  | [] => pure true
  | chunk :: chunks => do
    let keep ← run L cfg sid (.data chunk)
    if keep then serve chunks else pure false

/-- one request after the other is processed and answered -/
def handle : List Bytes → M Bool
  | [] => pure true
  | request :: requests => do
    let result ← processMessage L cfg sid request
    let keep ← answer sid result
    if keep then handle requests else pure false

/-- **The reads matter only for the texts they hand over.** -/
theorem serve_eq (chunks : List Bytes) :
    serve L cfg sid chunks = handle L cfg sid (handed chunks) := by
  induction chunks with
  | nil => rfl
  | cons chunk chunks ih =>
    have hrun : run L cfg sid (.data chunk) =
        processMessage L cfg sid (cString chunk) >>= answer sid := rfl
    show (run L cfg sid (.data chunk) >>= fun keep =>
      if keep then serve L cfg sid chunks else pure false) = _
    rw [hrun, Prog.bind_assoc, ih]
    rfl

end

/-! ## lengths -/

theorem length_cString_le (chunk : Bytes) : (cString chunk).length ≤ chunk.length :=
  (List.takeWhile_sublist _).length_le

theorem cString_eq_self_iff (chunk : Bytes) : cString chunk = chunk ↔ 0 ∉ chunk := by
  unfold cString
  rw [List.takeWhile_eq_self_iff]
  constructor
  · intro h hzero
    have := h 0 hzero
    simp at this
  · intro h b hb
    have hne : b ≠ 0 := fun he => h (he ▸ hb)
    simpa using hne

theorem handed_eq_self_iff (chunks : List Bytes) :
    handed chunks = chunks ↔ ∀ chunk ∈ chunks, 0 ∉ chunk := by
  have hmap : handed chunks = chunks ↔ ∀ chunk ∈ chunks, cString chunk = id chunk := by
    rw [← List.map_inj_left, List.map_id]
    rfl
  simp only [hmap, id, cString_eq_self_iff]

theorem length_flatten_handed_le (chunks : List Bytes) :
    (handed chunks).flatten.length ≤ chunks.flatten.length := by
  induction chunks with
  | nil => exact le_rfl
  | cons chunk chunks ih =>
    have hle := length_cString_le chunk
    show (cString chunk ++ (handed chunks).flatten).length ≤ (chunk ++ chunks.flatten).length
    rw [List.length_append, List.length_append]
    omega

/-- nothing was cut off any chunk if the total length is the same -/
theorem handed_eq_self {chunks : List Bytes}
    (h : chunks.flatten.length ≤ (handed chunks).flatten.length) : handed chunks = chunks := by
  induction chunks with
  | nil => rfl
  | cons chunk chunks ih =>
    have hle := length_cString_le chunk
    have hrest := length_flatten_handed_le chunks
    have htotal : (chunk ++ chunks.flatten).length ≤
        (cString chunk ++ (handed chunks).flatten).length := h
    rw [List.length_append, List.length_append] at htotal
    have hlength : chunk.length ≤ (cString chunk).length := by omega
    have hchunk : cString chunk = chunk := (List.takeWhile_sublist _).eq_of_length_le hlength
    have htail : handed chunks = chunks := ih (by omega)
    show cString chunk :: handed chunks = chunk :: chunks
    rw [hchunk, htail]

/-- the texts handed over are the chunks themselves, or they are shorter than the stream -/
theorem handed_eq_iff {requests chunks : List Bytes} (cut : Cut requests chunks) :
    handed chunks = requests ↔ chunks = requests ∧ ∀ request ∈ requests, 0 ∉ request := by
  constructor
  · intro h
    have hself : handed chunks = chunks := by
      apply handed_eq_self
      rw [h, cut.stream]
    have heq : chunks = requests := hself.symm.trans h
    refine ⟨heq, ?_⟩
    intro request hmem
    rw [← heq] at hmem
    exact (handed_eq_self_iff chunks).mp hself request hmem
  · intro h
    rw [(handed_eq_self_iff chunks).mpr (h.1 ▸ h.2), h.1]

/-- **For every cut of the stream, the requests handed over are the requests sent if and only if
each read returned one of them whole and none of them has a NUL in it; the replies and the state
are then those of the requests processed one by one.** -/
theorem requests_handed_iff {requests chunks : List Bytes} (cut : Cut requests chunks) :
    (handed chunks = requests ↔ chunks = requests ∧ ∀ request ∈ requests, 0 ∉ request) ∧
      (handed chunks = requests → ∀ (L : Libs) (cfg : Config) (sid : Nat) (s : St),
        (serve L cfg sid chunks).run s = (handle L cfg sid requests).run s) := by
  refine ⟨handed_eq_iff cut, ?_⟩
  intro h L cfg sid s
  rw [serve_eq, h]

/-! Alice's login, in one read and in two. -/

def loginText : Bytes := bytesOf aliceLogin.render

theorem cut_whole : Cut [loginText] [loginText] where
  stream := rfl
  nonempty := by decide
  fits := by decide

theorem cut_split : Cut [loginText] [loginText.take 20, loginText.drop 20] where
  stream := by decide
  nonempty := by decide
  fits := by decide

/-- the state after the reads `chunks` on a new connection -/
def afterReads (chunks : List Bytes) : Core :=
  ((serve (.known [aliceLogin]) .sample 0 chunks).run (aliceStart.facing healthy)).2.core

theorem requests_handed_login :
    handed [loginText] = [loginText] ∧
      (serve (.known [aliceLogin]) .sample 0 [loginText]).run (aliceStart.facing healthy) =
        (handle (.known [aliceLogin]) .sample 0 [loginText]).run (aliceStart.facing healthy) := by
  have h : handed [loginText] = [loginText] :=
    (requests_handed_iff cut_whole).1.mpr ⟨rfl, by decide⟩
  exact ⟨h, (requests_handed_iff cut_whole).2 h _ _ _ _⟩

/-- the same bytes in two reads: two replies to no request, and nobody is logged in -/
theorem split_login_is_lost :
    Cut [loginText] [loginText] ∧ Cut [loginText] [loginText.take 20, loginText.drop 20] ∧
      handed [loginText.take 20, loginText.drop 20] ≠ [loginText] ∧
      ((afterReads [loginText]).sessions 0).clientID = "alice" ∧
      ((afterReads [loginText.take 20, loginText.drop 20]).sessions 0).clientID = "" ∧
      ((afterReads [loginText.take 20, loginText.drop 20]).sessions 0).wire =
        bytesOf invalidJson.1.text ++ bytesOf invalidJson.1.text := by
  refine ⟨cut_whole, cut_split, ?_, ?_, ?_, ?_⟩
  · decide
  · decide
  · decide
  · decide

end Logistics
