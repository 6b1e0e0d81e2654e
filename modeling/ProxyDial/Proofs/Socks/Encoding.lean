import ProxyDial.Proofs.Address.Octets
import ProxyDial.Socks.Message

set_option autoImplicit false

/-! Readers for the packets that a SOCKS client sends, as RFC 1928 and RFC 1929 define them: the
greeting, the packet with user name and password, and the request. They give back what a packet was
made from, and a packet is made from all that fits behind a length of one byte. -/

namespace ProxyDial.Socks
open Text

/-- Bytes behind their length, and the rest. -/
def readPrefixed? : Bytes → Option (Bytes × Bytes)
  | [] => none
  | length :: rest =>
      if length.toNat ≤ rest.length then some (rest.take length.toNat, rest.drop length.toNat)
      else none

/-- The methods that a greeting offers. -/
def readGreeting? : Bytes → Option Bytes
  | [] => none
  | first :: rest => do
      let (methods, rest) ← readPrefixed? rest
      if first = 5 && rest.isEmpty then some methods else none

/-- User name and password. -/
def readPasswordPacket? : Bytes → Option (Bytes × Bytes)
  | [] => none
  | first :: rest => do
      let (username, rest) ← readPrefixed? rest
      let (password, rest) ← readPrefixed? rest
      if first = 1 && rest.isEmpty then some (username, password) else none

/-- Where a request leads to. -/
inductive Target
  | ip (address : IpAddress)
  | name (bytes : Bytes)
  deriving DecidableEq, Repr

structure Request where
  command : UInt8
  target : Target
  port : UInt16
  deriving DecidableEq, Repr

/-- A target of the given type, and the rest. -/
def readTarget? (type : UInt8) (bytes : Bytes) : Option (Target × Bytes) :=
  if type = 1 then
    match bytes with
    | a :: b :: c :: d :: rest => some (.ip (.v4 ⟨a, b, c, d⟩), rest)
    | _ => none
  else if type = 3 then (readPrefixed? bytes).map fun (name, rest) => (.name name, rest)
  else if type = 4 then
    if 16 ≤ bytes.length then some (.ip (.v6 (.ofOctets (bytes.take 16))), bytes.drop 16) else none
  else none

def readRequest? : Bytes → Option Request
  | first :: command :: reserved :: type :: rest => do
      let (target, rest) ← readTarget? type rest
      match rest with
      | [high, low] =>
          if first = 5 && reserved = 0 then
            some ⟨command, target, high.toUInt16 * 256 + low.toUInt16⟩
          else none
      | _ => none
  | _ => none

/-- The target for a host: an address where the host is one, else its name. -/
def Target.ofHost (host : String) : Target :=
  match IpAddress.ofString? host with
  | some address => .ip address
  | none => .name (utf8 host)

theorem prefixed?_eq (text : String) :
    prefixed? text =
      if (utf8 text).length ≤ 255 then some (UInt8.ofNat (utf8 text).length :: utf8 text)
      else none := by
  unfold prefixed?
  simp only [Nat.lt_succ_iff]

theorem readPrefixed?_prefixed {text : String} {packet : Bytes}
    (encoded : prefixed? text = some packet) (rest : Bytes) :
    readPrefixed? (packet ++ rest) = some (utf8 text, rest) := by
  rw [prefixed?_eq] at encoded
  by_cases fits : (utf8 text).length ≤ 255
  · rw [if_pos fits] at encoded
    cases encoded
    have length : (UInt8.ofNat (utf8 text).length).toNat = (utf8 text).length :=
      UInt8.toNat_ofNat_of_lt (Nat.lt_succ_of_le fits)
    unfold readPrefixed?
    simp only [List.cons_append, length]
    rw [if_pos (by rw [List.length_append]; omega), List.take_left, List.drop_left]
  · rw [if_neg fits] at encoded
    cases encoded

theorem readGreeting?_greeting (credentials : Option Credentials) :
    readGreeting? (greeting credentials) =
      some (if credentials.isSome then [0, 2] else [0]) := by
  cases credentials <;> rfl

theorem readPasswordPacket?_passwordPacket {login : Credentials} {packet : Bytes}
    (encoded : passwordPacket login = .ok packet) :
    readPasswordPacket? packet = some (utf8 login.username, utf8 login.password) := by
  unfold passwordPacket at encoded
  cases first : prefixed? login.username with
  | none =>
      rw [first] at encoded
      cases encoded
  | some username =>
      cases second : prefixed? login.password with
      | none =>
          rw [first, second] at encoded
          cases encoded
      | some password =>
          rw [first, second] at encoded
          cases encoded
          have end' := readPrefixed?_prefixed second []
          rw [List.append_nil] at end'
          unfold readPasswordPacket?
          simp only [List.cons_append, readPrefixed?_prefixed first, end',
            Option.bind_eq_bind, Option.bind_some]
          rfl

/-- What is wrong with credentials that make no packet. -/
theorem passwordPacket_error_iff {login : Credentials} {error : Error} :
    passwordPacket login = .error error ↔
      (255 < (utf8 login.username).length ∧ error = .config .socksUsernameTooLong) ∨
        ((utf8 login.username).length ≤ 255 ∧ 255 < (utf8 login.password).length ∧
          error = .config .socksPasswordTooLong) := by
  unfold passwordPacket
  rw [prefixed?_eq, prefixed?_eq]
  by_cases first : (utf8 login.username).length ≤ 255
  · have notLong := Nat.not_lt_of_le first
    by_cases second : (utf8 login.password).length ≤ 255
    · simp [first, second, notLong, Nat.not_lt_of_le]
    · simp [first, second, notLong, Nat.lt_of_not_le, eq_comm]
  · simp [first, Nat.lt_of_not_le, eq_comm]

theorem passwordPacket_encodes {login : Credentials}
    (fits : (utf8 login.username).length ≤ 255 ∧ (utf8 login.password).length ≤ 255) :
    ∃ packet, passwordPacket login = .ok packet := by
  cases found : passwordPacket login with
  | ok packet => exact ⟨packet, rfl⟩
  | error error =>
      rcases passwordPacket_error_iff.mp found with ⟨long, -⟩ | ⟨-, long, -⟩ <;> omega

theorem readTarget?_hostField {host : String} {packet : Bytes}
    (encoded : hostField host = .ok packet) (rest : Bytes) :
    ∃ type field, packet = type :: field ∧
      readTarget? type (field ++ rest) = some (.ofHost host, rest) := by
  unfold hostField at encoded
  unfold Target.ofHost
  cases literal : IpAddress.ofString? host with
  | some address =>
      cases address with
      | v4 ip =>
          simp only [literal] at encoded
          cases encoded
          exact ⟨1, ip.octets, rfl, rfl⟩
      | v6 ip =>
          simp only [literal] at encoded
          cases encoded
          refine ⟨4, ip.octets, rfl, ?_⟩
          unfold readTarget?
          rw [if_neg (by decide), if_neg (by decide), if_pos rfl,
            if_pos (by rw [List.length_append, ip.octets_length]; omega),
            List.take_left' ip.octets_length, List.drop_left' ip.octets_length,
            Ipv6.ofOctets_octets]
  | none =>
      simp only [literal] at encoded
      cases named : prefixed? host with
      | none =>
          rw [named] at encoded
          cases encoded
      | some name =>
          rw [named] at encoded
          cases encoded
          refine ⟨3, name, rfl, ?_⟩
          unfold readTarget?
          rw [if_neg (by decide), if_pos rfl, readPrefixed?_prefixed named]
          rfl

theorem readRequest?_request {destination : Destination} {packet : Bytes}
    (encoded : request destination = .ok packet) :
    readRequest? packet = some ⟨1, .ofHost destination.host, destination.port⟩ := by
  unfold request at encoded
  cases field : hostField destination.host with
  | error error =>
      rw [field] at encoded
      cases encoded
  | ok host =>
      rw [field] at encoded
      cases encoded
      obtain ⟨type, address, rfl, read⟩ := readTarget?_hostField field (portField destination.port)
      simp only [List.cons_append, List.nil_append, readRequest?, read, Option.bind_eq_bind,
        Option.bind_some]
      simp only [portField, uint16_of_octets]
      rfl

/-- What is wrong with a destination that makes no request. -/
theorem request_error_iff {destination : Destination} {error : Error} :
    request destination = .error error ↔
      IpAddress.ofString? destination.host = none ∧ 255 < (utf8 destination.host).length ∧
        error = .config (.socksHostTooLong destination.host) := by
  unfold request hostField
  cases IpAddress.ofString? destination.host with
  | some address => cases address <;> simp [bind, Except.bind, pure, Except.pure]
  | none =>
      rw [prefixed?_eq]
      by_cases fits : (utf8 destination.host).length ≤ 255
      · simp [fits, Nat.not_lt_of_le, bind, Except.bind, pure, Except.pure]
      · simp [fits, Nat.lt_of_not_le, bind, Except.bind, eq_comm]

theorem request_encodes {destination : Destination}
    (fits : (IpAddress.ofString? destination.host).isSome ∨
      (utf8 destination.host).length ≤ 255) :
    ∃ packet, request destination = .ok packet := by
  cases found : request destination with
  | ok packet => exact ⟨packet, rfl⟩
  | error error =>
      obtain ⟨noLiteral, long, -⟩ := request_error_iff.mp found
      rcases fits with literal | short
      · rw [noLiteral] at literal
        cases literal
      · omega

end ProxyDial.Socks
