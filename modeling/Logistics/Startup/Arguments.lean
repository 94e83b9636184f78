import Logistics.Client.Input

/-!
# Command lines

The ports that server and client are started with.  Both take what the C library makes of the front
of an argument: `std::stoi` on the server throws where there is no number or no `int`, `atoi` on the
client takes the low 32 bits of a `long`.

A `Numeral` is an argument as these functions read it, in its parts: white space, a sign, digits,
and what stands behind them.

* `validateArguments`, `parseArguments`   the functions of the source, with what they print;
* `strtol_text`            what `strtol` makes of a numeral;
* `Position`               the places a port can stand in, with the arguments around it;
* `port_accepted_iff`      **a position accepts the numerals that it reads as ports**;
* `port_grammar_iff`       **and exactly the loose ones of them are no plain ports**.
-/

namespace Logistics

namespace Startup
open JsonText Client

/-! ## the functions of the source -/

/-- `std::stoi`; `none` where it throws -/
def stoi (s : Bytes) : Option Int :=
  let r := strtol s
  if r.2 = s then none
  else if -2 ^ 31 ≤ r.1 ∧ r.1 < 2 ^ 31 then some r.1 else none

/-- `atoi`: the `long` of `strtol` as an `int` -/
def atoi (s : Bytes) : Int := (strtol s).1.bmod (2 ^ 32)

def UPPER_PORT_LIMIT : Int := 65535

def CONFIG_FILE_PATH : Bytes := bytesOf "./etc/config.yaml"

def IsPort (n : Int) : Prop := 0 < n ∧ n ≤ UPPER_PORT_LIMIT

instance (n : Int) : Decidable (IsPort n) := inferInstanceAs (Decidable (_ ∧ _))

/-- one port of the server: the error it is refused with, without its line end -/
def checkPort (range invalid : String) (s : Bytes) : Except Bytes Unit :=
  match stoi s with
  | none => .error (bytesOf invalid)
  | some port => if IsPort port then .ok () else .error (bytesOf range)

def checkTcpPort : Bytes → Except Bytes Unit :=
  checkPort "Error: TCP port must be between 1 and 65535." "Error: Invalid port number provided."

def checkUdpPort : Bytes → Except Bytes Unit :=
  checkPort "Error: UDP port must be between 1 and 65535."
    "Error: Invalid UDP port number provided."

/-- `ConfigValidator::validateArguments`, on the program and its arguments -/
def validateArguments (exist : Bytes → Bool) (program : Bytes) : List Bytes → Except Bytes Unit
  | [] =>
    if exist CONFIG_FILE_PATH then .ok ()
    else .error (bytesOf "Error: Default configuration file not found at " ++ CONFIG_FILE_PATH)
  | configPath :: ports =>
    if 2 < ports.length then
      .error (bytesOf "Usage: " ++ program ++
        bytesOf " [optional_path_to_config.yaml] [optional_tcp_port] [optional_udp_port]")
    else if exist configPath = false then
      .error (bytesOf "Error: Configuration file not found at path: " ++ configPath)
    else
      match ports with
      | [] => .ok ()
      | [tcp] => checkTcpPort tcp
      | tcp :: udp :: _ => do
        checkTcpPort tcp
        checkUdpPort udp

structure ClientConfig where
  host : Bytes
  portTcp : Bytes
  portUdp : Bytes
  deriving DecidableEq

def DEFAULT_PORT : Bytes := bytesOf "8888"

def configArgumentsPorts (host : Bytes) : List Bytes → Except Bytes ClientConfig
  | [tcp] =>
    if IsPort (atoi tcp) then .ok ⟨host, tcp, tcp⟩
    else .error (bytesOf "Error: TCP port must be a number between 1 and 65535.")
  | [tcp, udp] =>
    if IsPort (atoi tcp) ∧ IsPort (atoi udp) then .ok ⟨host, tcp, udp⟩
    else .error (bytesOf "Error: Port must be a number between 1 and 65535.")
  | _ => .error []

/-- `parse_arguments`, with `CLIENT_PORT` of the environment -/
def parseArguments (clientPort : Option Bytes) (program : Bytes) :
    List Bytes → Except Bytes ClientConfig
  | [host] =>
    match clientPort with
    | none => .ok ⟨host, DEFAULT_PORT, DEFAULT_PORT⟩
    | some port =>
      if IsPort (atoi port) then .ok ⟨host, port, port⟩
      else .error (bytesOf "Error: port in environment is invalid.")
  | [host, tcp] => configArgumentsPorts host [tcp]
  | [host, tcp, udp] => configArgumentsPorts host [tcp, udp]
  | _ =>
    .error (bytesOf "Usage: " ++ program ++
      bytesOf " <host> <tcp_port>(optional) <udp_port>(optional)")

/-! ## numerals -/

structure Numeral where
  spaces : Bytes
  sign : Bytes
  digits : Bytes
  tail : Bytes
  spaces_space : ∀ b ∈ spaces, isspace b = true
  sign_cases : sign = [] ∨ sign = [43] ∨ sign = [45]
  digits_ne : digits ≠ []
  digits_digit : ∀ b ∈ digits, isDigit b = true
  tail_stops : ∀ b, tail.head? = some b → isDigit b = false

namespace Numeral

def text (n : Numeral) : Bytes := n.spaces ++ (n.sign ++ (n.digits ++ n.tail))

def value (n : Numeral) : Int :=
  if n.sign = [45] then -(digitsValue n.digits : Int) else digitsValue n.digits

/-- nothing but digits -/
def Plain (n : Numeral) : Prop := n.spaces = [] ∧ n.sign = [] ∧ n.tail = []

end Numeral

/-- what `strtol` can return -/
def long (n : Int) : Int := max LONG_MIN (min LONG_MAX n)

section
variable {α : Type} {p : α → Bool} {l r : List α}

theorem takeWhile_stop (h : ∀ a ∈ l, p a = true) (hr : ∀ a, r.head? = some a → p a = false) :
    (l ++ r).takeWhile p = l ∧ (l ++ r).dropWhile p = r := by
  have hstop : r.takeWhile p = [] ∧ r.dropWhile p = r := by
    cases r with
    | nil => exact ⟨rfl, rfl⟩
    | cons a r =>
      have ha := hr a rfl
      rw [List.takeWhile_cons, List.dropWhile_cons, ha]
      exact ⟨rfl, rfl⟩
  rw [List.takeWhile_append_of_pos h, List.dropWhile_append_of_pos h, hstop.1, hstop.2,
    List.append_nil]
  exact ⟨rfl, rfl⟩

end

theorem Numeral.head_digits (n : Numeral) {b : UInt8} (h : (n.digits ++ n.tail).head? = some b) :
    isDigit b = true := by
  obtain ⟨d, ds, hd⟩ := List.exists_cons_of_ne_nil n.digits_ne
  rw [hd] at h
  cases h
  exact n.digits_digit b (hd ▸ List.mem_cons_self)

/-- the text behind the white space, and behind the sign -/
def unsigned (t : Bytes) : Bytes := if t.head? = some 45 ∨ t.head? = some 43 then t.tail else t

theorem strtol_eq (s : Bytes) : strtol s =
    if (unsigned (s.dropWhile isspace)).takeWhile isDigit = [] then (0, s)
    else (long (if (s.dropWhile isspace).head? = some 45 then
        -(digitsValue ((unsigned (s.dropWhile isspace)).takeWhile isDigit) : Int)
      else digitsValue ((unsigned (s.dropWhile isspace)).takeWhile isDigit)),
      (unsigned (s.dropWhile isspace)).dropWhile isDigit) := rfl

/-- **`strtol` reads the number of a numeral and stops behind its digits.** -/
theorem strtol_text (n : Numeral) : strtol n.text = (long n.value, n.tail) := by
  obtain ⟨hdigits, htail⟩ := takeWhile_stop n.digits_digit n.tail_stops
  have hspaces : n.text.dropWhile isspace = n.sign ++ (n.digits ++ n.tail) := by
    refine (takeWhile_stop n.spaces_space fun b hb => ?_).2
    rcases n.sign_cases with h | h | h
    · rw [h] at hb
      exact (isDigit_facts (n.head_digits hb)).1
    · rw [h] at hb
      cases hb
      rfl
    · rw [h] at hb
      cases hb
      rfl
  have hminus : (n.sign ++ (n.digits ++ n.tail)).head? = some 45 ↔ n.sign = [45] := by
    rcases n.sign_cases with h | h | h
    · rw [h, List.nil_append]
      exact iff_of_false (fun he => (isDigit_facts (n.head_digits he)).2.1 rfl) nofun
    · rw [h]
      exact iff_of_false (by simp) (by decide)
    · rw [h]
      exact iff_of_true rfl rfl
  have hunsigned : unsigned (n.sign ++ (n.digits ++ n.tail)) = n.digits ++ n.tail := by
    unfold unsigned
    rcases n.sign_cases with h | h | h
    · rw [h, List.nil_append]
      refine if_neg ?_
      rintro (he | he)
      · exact (isDigit_facts (n.head_digits he)).2.1 rfl
      · exact (isDigit_facts (n.head_digits he)).2.2 rfl
    · rw [h]
      exact if_pos (.inr rfl)
    · rw [h]
      exact if_pos (.inl rfl)
  rw [strtol_eq, hspaces, hunsigned, hdigits, htail, if_neg n.digits_ne]
  simp only [hminus]
  rfl

/-- a text that is no numeral is left alone -/
theorem strtol_cases (s : Bytes) : (∃ n : Numeral, n.text = s) ∨ strtol s = (0, s) := by
  rw [strtol_eq]
  by_cases hdigits : (unsigned (s.dropWhile isspace)).takeWhile isDigit = []
  · exact .inr (if_pos hdigits)
  · refine .inl ?_
    -- the sign is what `unsigned` takes off
    obtain ⟨sign, hsign, hrest⟩ : ∃ sign : Bytes, (sign = [] ∨ sign = [43] ∨ sign = [45]) ∧
        s.dropWhile isspace = sign ++ unsigned (s.dropWhile isspace) := by
      unfold unsigned
      cases s.dropWhile isspace with
      | nil => exact ⟨[], .inl rfl, rfl⟩
      | cons b t =>
        by_cases hb : b = 45
        · subst hb
          exact ⟨[45], .inr (.inr rfl), rfl⟩
        · by_cases hb' : b = 43
          · subst hb'
            exact ⟨[43], .inr (.inl rfl), rfl⟩
          · refine ⟨[], .inl rfl, ?_⟩
            rw [List.nil_append, if_neg]
            rintro (h | h)
            · exact hb (Option.some.inj h)
            · exact hb' (Option.some.inj h)
    generalize unsigned (s.dropWhile isspace) = u at hdigits hrest
    refine ⟨⟨s.takeWhile isspace, sign, u.takeWhile isDigit, u.dropWhile isDigit,
      fun b hb => List.mem_takeWhile_imp hb, hsign, hdigits,
      fun b hb => List.mem_takeWhile_imp hb, fun b hb => ?_⟩, ?_⟩
    · have hstop := List.head?_dropWhile_not isDigit u
      rw [hb] at hstop
      exact hstop
    · show s.takeWhile isspace ++ (sign ++ (u.takeWhile isDigit ++ u.dropWhile isDigit)) = s
      rw [List.takeWhile_append_dropWhile, ← hrest, List.takeWhile_append_dropWhile]

/-- a non-empty text of decimal digits that denotes a number from 1 to 65535 -/
def PortGrammar (s : Bytes) : Prop :=
  s ≠ [] ∧ (∀ b ∈ s, isDigit b = true) ∧ IsPort (digitsValue s)

theorem portGrammar_text (n : Numeral) : PortGrammar n.text ↔ n.Plain ∧ IsPort n.value := by
  have hplain : n.Plain → n.text = n.digits ∧ n.value = digitsValue n.digits := by
    rintro ⟨hspaces, hsign, htail⟩
    unfold Numeral.text Numeral.value
    rw [hspaces, hsign, htail]
    exact ⟨by simp, if_neg (by simp)⟩
  constructor
  · rintro ⟨-, hall, hport⟩
    have hp : n.Plain := by
      unfold Numeral.text at hall
      simp only [List.forall_mem_append] at hall
      obtain ⟨hspaces, hsign, -, htail⟩ := hall
      refine ⟨List.eq_nil_iff_forall_not_mem.mpr fun b hb => ?_, ?_, ?_⟩
      · have hspace := n.spaces_space b hb
        rw [(isDigit_facts (hspaces b hb)).1] at hspace
        cases hspace
      · rcases n.sign_cases with h | h | h
        · exact h
        · rw [h] at hsign
          cases hsign 43 (List.mem_singleton_self _)
        · rw [h] at hsign
          cases hsign 45 (List.mem_singleton_self _)
      · cases ht : n.tail with
        | nil => rfl
        | cons b t =>
          have hstop := n.tail_stops b (by rw [ht]; rfl)
          rw [htail b (ht ▸ List.mem_cons_self)] at hstop
          cases hstop
    obtain ⟨htext, hvalue⟩ := hplain hp
    rw [htext] at hport
    rw [hvalue]
    exact ⟨hp, hport⟩
  · rintro ⟨hp, hport⟩
    obtain ⟨htext, hvalue⟩ := hplain hp
    rw [hvalue] at hport
    rw [htext]
    exact ⟨n.digits_ne, n.digits_digit, hport⟩

theorem numeral_of_portGrammar {s : Bytes} (h : PortGrammar s) : ∃ n : Numeral, n.text = s :=
  ⟨⟨[], [], s, [], nofun, .inl rfl, h.1, h.2.1, nofun⟩, by simp [Numeral.text]⟩

/-! ## the numbers that are read -/

theorem tail_ne_text (n : Numeral) : n.tail ≠ n.text := by
  intro h
  have hlength := congrArg List.length h
  have hpos := List.length_pos_iff.mpr n.digits_ne
  unfold Numeral.text at hlength
  simp only [List.length_append] at hlength
  omega

theorem stoi_text_port_iff (n : Numeral) :
    (∃ port, stoi n.text = some port ∧ IsPort port) ↔ IsPort n.value := by
  unfold stoi IsPort UPPER_PORT_LIMIT
  rw [strtol_text, if_neg (tail_ne_text n)]
  unfold long LONG_MIN LONG_MAX
  constructor
  · rintro ⟨port, h, hport⟩
    split_ifs at h with hint
    cases h
    omega
  · intro hvalue
    rw [if_pos (by omega)]
    exact ⟨_, rfl, by omega⟩

/-- `stoi` takes for a port exactly a numeral that denotes one -/
theorem stoi_port_iff (s : Bytes) :
    (∃ port, stoi s = some port ∧ IsPort port) ↔ ∃ n : Numeral, n.text = s ∧ IsPort n.value := by
  constructor
  · rintro ⟨port, h, hport⟩
    rcases strtol_cases s with ⟨n, rfl⟩ | hnone
    · exact ⟨n, rfl, (stoi_text_port_iff n).mp ⟨port, h, hport⟩⟩
    · unfold stoi at h
      rw [hnone, if_pos rfl] at h
      cases h
  · rintro ⟨n, rfl, hvalue⟩
    exact (stoi_text_port_iff n).mpr hvalue

/-- `atoi` takes for a port exactly a numeral whose low 32 bits denote one -/
theorem atoi_port_iff (s : Bytes) :
    IsPort (atoi s) ↔ ∃ n : Numeral, n.text = s ∧ IsPort ((long n.value).bmod (2 ^ 32)) := by
  unfold atoi
  constructor
  · intro hport
    rcases strtol_cases s with ⟨n, rfl⟩ | hnone
    · rw [strtol_text] at hport
      exact ⟨n, rfl, hport⟩
    · rw [hnone] at hport
      cases hport.1
  · rintro ⟨n, rfl, hport⟩
    rw [strtol_text]
    exact hport

/-! ## positions -/

/-- where a port stands, with the arguments around it -/
inductive Position where
  | serverTcp (configPath : Bytes) (udp : Option Bytes)
  | serverUdp (configPath tcp : Bytes)
  | clientTcp (host : Bytes) (udp : Option Bytes)
  | clientUdp (host tcp : Bytes)
  | clientPort (host : Bytes)

/-- what the program is started with apart from its arguments -/
structure Surroundings where
  exist : Bytes → Bool
  clientPort : Option Bytes
  program : Bytes

namespace Position

def Accepts (w : Surroundings) : Position → Bytes → Prop
  | .serverTcp configPath udp, s =>
    validateArguments w.exist w.program (configPath :: s :: udp.toList) = .ok ()
  | .serverUdp configPath tcp, s =>
    validateArguments w.exist w.program [configPath, tcp, s] = .ok ()
  | .clientTcp host udp, s =>
    ∃ config, parseArguments w.clientPort w.program (host :: s :: udp.toList) = .ok config
  | .clientUdp host tcp, s =>
    ∃ config, parseArguments w.clientPort w.program [host, tcp, s] = .ok config
  | .clientPort host, s => ∃ config, parseArguments (some s) w.program [host] = .ok config

/-- the other arguments are valid -/
def OthersValid (w : Surroundings) : Position → Prop
  | .serverTcp configPath udp => w.exist configPath = true ∧ ∀ port ∈ udp, PortGrammar port
  | .serverUdp configPath tcp => w.exist configPath = true ∧ PortGrammar tcp
  | .clientTcp _ udp => ∀ port ∈ udp, PortGrammar port
  | .clientUdp _ tcp => PortGrammar tcp
  | .clientPort _ => True

/-- the number that a position reads for the one a numeral denotes -/
def reads : Position → Int → Int
  | .serverTcp _ _, n => n
  | .serverUdp _ _, n => n
  | .clientTcp _ _, n => (long n).bmod (2 ^ 32)
  | .clientUdp _ _, n => (long n).bmod (2 ^ 32)
  | .clientPort _, n => (long n).bmod (2 ^ 32)

/-- a numeral that reads as a port, with something around its digits or beyond the range -/
def Loose (pos : Position) (s : Bytes) : Prop :=
  ∃ n : Numeral, n.text = s ∧ IsPort (pos.reads n.value) ∧ ¬ (n.Plain ∧ IsPort n.value)

end Position

theorem reads_of_isPort (pos : Position) {n : Int} (h : IsPort n) : IsPort (pos.reads n) := by
  have hwrap : IsPort ((long n).bmod (2 ^ 32)) := by
    unfold IsPort UPPER_PORT_LIMIT at h
    have hlong : long n = n := by
      unfold long LONG_MIN LONG_MAX
      omega
    rw [hlong, Int.bmod_eq_of_le (by omega) (by omega)]
    exact h
  cases pos with
  | serverTcp configPath udp => exact h
  | serverUdp configPath tcp => exact h
  | clientTcp host udp => exact hwrap
  | clientUdp host tcp => exact hwrap
  | clientPort host => exact hwrap

theorem checkPort_ok_iff (range invalid : String) (s : Bytes) :
    checkPort range invalid s = .ok () ↔ ∃ n : Numeral, n.text = s ∧ IsPort n.value := by
  rw [← stoi_port_iff]
  unfold checkPort
  cases stoi s with
  | none => exact iff_of_false nofun nofun
  | some port =>
    simp only [Option.some.injEq, exists_eq_left']
    split_ifs with hport
    · exact iff_of_true rfl hport
    · exact iff_of_false nofun hport

theorem numeral_of_grammar {s : Bytes} (h : PortGrammar s) :
    ∃ n : Numeral, n.text = s ∧ IsPort n.value := by
  obtain ⟨n, rfl⟩ := numeral_of_portGrammar h
  exact ⟨n, rfl, ((portGrammar_text n).mp h).2⟩

theorem checkPort_of_grammar (range invalid : String) {s : Bytes} (h : PortGrammar s) :
    checkPort range invalid s = .ok () :=
  (checkPort_ok_iff range invalid s).mpr (numeral_of_grammar h)

theorem atoi_port_of_grammar {s : Bytes} (h : PortGrammar s) : IsPort (atoi s) := by
  obtain ⟨n, htext, hport⟩ := numeral_of_grammar h
  exact (atoi_port_iff s).mpr ⟨n, htext, reads_of_isPort (.clientPort []) hport⟩

/-- the server checks each port on its own -/
theorem validateArguments_ports {exist : Bytes → Bool} {configPath : Bytes}
    (hpath : exist configPath = true) (program tcp : Bytes) (udp : Option Bytes) :
    validateArguments exist program (configPath :: tcp :: udp.toList) = .ok () ↔
      checkTcpPort tcp = .ok () ∧ ∀ port ∈ udp, checkUdpPort port = .ok () := by
  cases udp with
  | none =>
    simp only [validateArguments, Option.toList, hpath]
    exact (and_iff_left nofun).symm
  | some port =>
    simp only [validateArguments, Option.toList, hpath, Option.mem_some, forall_eq']
    cases checkTcpPort tcp with
    | error e => exact iff_of_false nofun (fun h => nomatch h.1)
    | ok u => exact (and_iff_right rfl).symm

/-- the client checks each port on its own -/
theorem parseArguments_ports (clientPort : Option Bytes) (program host tcp : Bytes)
    (udp : Option Bytes) :
    (∃ config, parseArguments clientPort program (host :: tcp :: udp.toList) = .ok config) ↔
      IsPort (atoi tcp) ∧ ∀ port ∈ udp, IsPort (atoi port) := by
  cases udp with
  | none =>
    show (∃ config, (if IsPort (atoi tcp) then _ else _) = Except.ok config) ↔ _
    split_ifs with h
    · exact iff_of_true ⟨_, rfl⟩ ⟨h, nofun⟩
    · exact iff_of_false nofun fun hports => h hports.1
  | some port =>
    show (∃ config, (if IsPort (atoi tcp) ∧ IsPort (atoi port) then _ else _) =
      Except.ok config) ↔ _
    simp only [Option.mem_some, forall_eq']
    split_ifs with h
    · exact iff_of_true ⟨_, rfl⟩ h
    · exact iff_of_false nofun h

theorem parseArguments_clientPort (program host s : Bytes) :
    (∃ config, parseArguments (some s) program [host] = .ok config) ↔ IsPort (atoi s) := by
  show (∃ config, (if IsPort (atoi s) then _ else _) = Except.ok config) ↔ _
  split_ifs with h
  · exact iff_of_true ⟨_, rfl⟩ h
  · exact iff_of_false nofun h

/-- **A position accepts exactly the numerals for which the number that it reads is a port.** -/
theorem port_accepted_iff {w : Surroundings} (pos : Position) (s : Bytes) (h : pos.OthersValid w) :
    pos.Accepts w s ↔ ∃ n : Numeral, n.text = s ∧ IsPort (pos.reads n.value) := by
  cases pos with
  | serverTcp configPath udp =>
    obtain ⟨hpath, hudp⟩ := h
    refine (validateArguments_ports hpath w.program s udp).trans ?_
    refine Iff.trans (and_iff_left fun port hport => ?_) (checkPort_ok_iff _ _ s)
    exact checkPort_of_grammar _ _ (hudp port hport)
  | serverUdp configPath tcp =>
    obtain ⟨hpath, htcp⟩ := h
    refine (validateArguments_ports hpath w.program tcp (some s)).trans ?_
    refine Iff.trans (and_iff_right (checkPort_of_grammar _ _ htcp)) ?_
    simp only [Option.mem_some, forall_eq']
    exact checkPort_ok_iff _ _ s
  | clientTcp host udp =>
    refine (parseArguments_ports w.clientPort w.program host s udp).trans ?_
    refine Iff.trans (and_iff_left fun port hport => ?_) (atoi_port_iff s)
    exact atoi_port_of_grammar (h port hport)
  | clientUdp host tcp =>
    refine (parseArguments_ports w.clientPort w.program host tcp (some s)).trans ?_
    refine Iff.trans (and_iff_right (atoi_port_of_grammar h)) ?_
    simp only [Option.mem_some, forall_eq']
    exact atoi_port_iff s
  | clientPort host =>
    exact (parseArguments_clientPort w.program host s).trans (atoi_port_iff s)

/-- **Exactly the loose numerals are accepted without being ports.** -/
theorem port_grammar_iff {w : Surroundings} (pos : Position) (s : Bytes) (h : pos.OthersValid w) :
    (pos.Accepts w s ↔ PortGrammar s) ↔ ¬ pos.Loose s := by
  rw [port_accepted_iff pos s h]
  constructor
  · rintro hexact ⟨n, rfl, hport, hloose⟩
    exact hloose ((portGrammar_text n).mp (hexact.mp ⟨n, rfl, hport⟩))
  · intro hnot
    constructor
    · rintro ⟨n, rfl, hport⟩
      refine (portGrammar_text n).mpr (of_not_not fun hloose => ?_)
      exact hnot ⟨n, rfl, hport, hloose⟩
    · intro hgrammar
      obtain ⟨n, htext, hport⟩ := numeral_of_grammar hgrammar
      exact ⟨n, htext, reads_of_isPort pos hport⟩

def Surroundings.sample : Surroundings where
  exist := fun _ => true
  clientPort := none
  program := bytesOf "server"

/-- `8080` is accepted and a port, and `80abc` is accepted and none -/
theorem port_grammar_8080 :
    (Position.serverTcp CONFIG_FILE_PATH none).Accepts .sample (bytesOf "8080") ∧
      ¬ (Position.serverTcp CONFIG_FILE_PATH none).Loose (bytesOf "8080") ∧
      (Position.serverTcp CONFIG_FILE_PATH none).Loose (bytesOf "80abc") := by
  have hiff := fun s => port_grammar_iff (w := .sample) (.serverTcp CONFIG_FILE_PATH none) s
    ⟨rfl, nofun⟩
  refine ⟨rfl, (hiff _).mp (iff_of_true rfl ⟨by decide, by decide +kernel, by decide⟩), ?_⟩
  by_contra hstrict
  have hport := ((hiff (bytesOf "80abc")).mpr hstrict).mp rfl
  exact absurd hport.2.1 (by decide)

/-- accepted wherever a port can stand -/
def AcceptedEverywhere (s : Bytes) : Prop :=
  (Position.serverTcp CONFIG_FILE_PATH none).Accepts .sample s ∧
  (Position.serverUdp CONFIG_FILE_PATH (bytesOf "8080")).Accepts .sample s ∧
  (Position.clientTcp (bytesOf "localhost") none).Accepts .sample s ∧
  (Position.clientUdp (bytesOf "localhost") (bytesOf "8080")).Accepts .sample s ∧
  (Position.clientPort (bytesOf "localhost")).Accepts .sample s

/-- something behind the digits, white space or a sign before them, and, for the client, a number
that wraps -/
theorem loose_ports_accepted :
    (AcceptedEverywhere (bytesOf "80abc") ∧ ¬ PortGrammar (bytesOf "80abc")) ∧
    (AcceptedEverywhere (bytesOf " 80") ∧ ¬ PortGrammar (bytesOf " 80")) ∧
    (AcceptedEverywhere (bytesOf "+80") ∧ ¬ PortGrammar (bytesOf "+80")) ∧
    (Position.clientTcp (bytesOf "localhost") none).Accepts .sample (bytesOf "4294967376") ∧
      ¬ PortGrammar (bytesOf "4294967376") := by
  refine ⟨⟨⟨rfl, rfl, ⟨_, rfl⟩, ⟨_, rfl⟩, ⟨_, rfl⟩⟩, fun h => ?_⟩,
    ⟨⟨rfl, rfl, ⟨_, rfl⟩, ⟨_, rfl⟩, ⟨_, rfl⟩⟩, fun h => ?_⟩,
    ⟨⟨rfl, rfl, ⟨_, rfl⟩, ⟨_, rfl⟩, ⟨_, rfl⟩⟩, fun h => ?_⟩, ⟨_, rfl⟩, fun h => ?_⟩
  · exact absurd h.2.1 (by decide)
  · exact absurd h.2.1 (by decide)
  · exact absurd h.2.1 (by decide)
  · exact absurd h.2.2 (by decide)

end Startup
end Logistics
