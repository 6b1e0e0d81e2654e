import ProxyDial.Proofs.Destination.Reread
import ProxyDial.Proofs.Dns.Accepted
import ProxyDial.Proofs.Dns.Reading
import ProxyDial.Proofs.Text.Base64

set_option autoImplicit false

/-! The question that a nameserver gets. A host is written as labels with dots between them; the
query behind its length asks for the name of just these labels, and a dot at the end of the host
makes no difference. -/

namespace ProxyDial.Dns
open Text

/-- The characters of the labels of a host. -/
def isHostChar (c : Char) : Bool := c.isAlphanum || c = '-' || c = '_'

/-- A label of a host. -/
structure IsHostLabel (label : List Char) : Prop where
  filled : label ≠ []
  short : label.length ≤ 63
  chars : ∀ c ∈ label, isHostChar c = true
  start : label.head? ≠ some '-'

def dotted (labels : List (List Char)) : List Char := ['.'].intercalate labels

/-- The labels of a host, which all fit in one name. -/
structure HostLabels (labels : List (List Char)) : Prop where
  notEmpty : labels ≠ []
  each : ∀ label ∈ labels, IsHostLabel label
  total : (dotted labels).length ≤ 253

def bytesOf (label : List Char) : Bytes := utf8 (String.ofList label)

/-- The name of a host. -/
def nameOf (labels : List (List Char)) : Name := ⟨labels.map bytesOf⟩

variable {label : List Char} {labels : List (List Char)} {name : Name} {c : Char}

theorem dotted_cons_cons (label other : List Char) (labels : List (List Char)) :
    dotted (label :: other :: labels) = label ++ '.' :: dotted (other :: labels) := by
  simp [dotted, List.intercalate_cons_cons]

theorem visible_of_isHostChar (host : isHostChar c = true) : 0x21 ≤ c.toNat ∧ c.toNat ≤ 0x7e := by
  apply Authority.visible_of_allowed
  apply Authority.allowed_of_isPlain
  unfold isHostChar at host
  unfold Authority.isPlain
  simp only [Bool.or_eq_true, decide_eq_true_eq] at host
  rcases host with (alphanumeric | rfl) | rfl
  · rw [alphanumeric]
    rfl
  · decide
  · decide

theorem isHostChar_ne (host : isHostChar c = true) {mark : Char} (other : isHostChar mark = false) :
    c ≠ mark := by
  rintro rfl
  rw [host] at other
  cases other

/-- A name takes the characters of hosts, but for a hyphen at the start of a label. -/
theorem isLabelChar_of_isHostChar {first : Bool} (host : isHostChar c = true)
    (hyphen : c = '-' → first = false) : Name.isLabelChar first c = true := by
  unfold isHostChar at host
  unfold Name.isLabelChar
  simp only [Bool.or_eq_true, decide_eq_true_eq] at host
  rcases host with (alphanumeric | rfl) | rfl
  · simp [alphanumeric]
  · simp [hyphen rfl]
  · simp

namespace IsHostLabel

theorem length_bytesOf (isLabel : IsHostLabel label) : (bytesOf label).length = label.length := by
  have ascii : ∀ c ∈ label, c.toNat < 128 := by
    intro c member
    have visible := visible_of_isHostChar (isLabel.chars c member)
    omega
  unfold bytesOf
  rw [utf8_ofList_of_ascii ascii, List.length_map]

theorem label?_eq (isLabel : IsHostLabel label) : Name.label? label = .ok (bytesOf label) := by
  have limit : Name.maxLabel = 63 := rfl
  have short := isLabel.short
  have fits : ¬ (bytesOf label).length > Name.maxLabel := by
    rw [isLabel.length_bytesOf]
    omega
  cases label with
  | nil => exact absurd rfl isLabel.filled
  | cons first rest =>
      have isFirst : Name.isLabelChar true first = true := by
        apply isLabelChar_of_isHostChar (isLabel.chars first List.mem_cons_self)
        rintro rfl
        exact absurd rfl isLabel.start
      have areOthers : rest.all (Name.isLabelChar false) = true := by
        rw [List.all_eq_true]
        intro c member
        exact isLabelChar_of_isHostChar (isLabel.chars c (List.mem_cons_of_mem _ member))
          fun _ => rfl
      unfold Name.label?
      change (if (bytesOf (first :: rest)).length > Name.maxLabel then _ else _) = _
      rw [if_neg fits]
      simp only [isFirst, areOthers]
      rfl

theorem append_eq (isLabel : IsHostLabel label)
    (fits : name.length + label.length + 1 ≤ Name.maxLength) :
    name.append label = .ok ⟨name.labels ++ [bytesOf label]⟩ := by
  have small : ¬ name.length + label.length + 1 > Name.maxLength := Nat.not_lt_of_le fits
  unfold Name.append
  simp only [isLabel.label?_eq, bind, Except.bind, isLabel.length_bytesOf, if_neg small]
  rfl

end IsHostLabel

theorem readLabels_char (host : isHostChar c = true) (seen rest : List Char) :
    Name.readLabels name seen (c :: rest) = Name.readLabels name (c :: seen) rest := by
  have visible := visible_of_isHostChar host
  have noDot : c ≠ '.' := isHostChar_ne host (by decide)
  have noBackslash : c ≠ '\\' := isHostChar_ne host (by decide)
  have clean : (decide (c.toNat ≤ 0x20) || (decide (0x7f ≤ c.toNat) && decide (c.toNat ≤ 0xa0))) =
      false := by
    simp only [Bool.or_eq_false_iff, Bool.and_eq_false_iff, decide_eq_false_iff_not]
    omega
  conv => lhs; unfold Name.readLabels
  split
  next same => cases same
  next same => cases same
  next same => exact absurd (List.cons.inj same).1 noDot
  next same => exact absurd (List.cons.inj same).1 noBackslash
  next same => exact absurd (List.cons.inj same).1 noBackslash
  next same =>
    obtain ⟨rfl, rfl⟩ := List.cons.inj same
    rw [clean]
    rfl

theorem readLabels_chars (chars : ∀ c ∈ label, isHostChar c = true) (seen rest : List Char) :
    Name.readLabels name seen (label ++ rest) =
      Name.readLabels name (label.reverse ++ seen) rest := by
  induction label generalizing seen with
  | nil => rfl
  | cons c label ih =>
      rw [List.cons_append, readLabels_char (chars c List.mem_cons_self),
        ih (fun d member => chars d (List.mem_cons_of_mem _ member)), List.reverse_cons,
        List.append_assoc, List.singleton_append]

/-- A label ends at the end of the text, or at a last dot. -/
theorem readLabels_last (isLabel : IsHostLabel label) {tail : List Char}
    (ends : tail = [] ∨ tail = ['.']) :
    Name.readLabels name [] (label ++ tail) = name.append label := by
  rw [readLabels_chars isLabel.chars, List.append_nil]
  rcases ends with rfl | rfl
  · rw [Name.readLabels, List.reverse_reverse]
    intro none
    exact isLabel.filled (List.reverse_eq_nil_iff.mp none)
  · rw [Name.readLabels, List.reverse_reverse]
    cases name.append label with
    | error problem => rfl
    | ok found => rfl

theorem readLabels_dot (isLabel : IsHostLabel label)
    (fits : name.length + label.length + 1 ≤ Name.maxLength) (rest : List Char) :
    Name.readLabels name [] (label ++ '.' :: rest) =
      Name.readLabels ⟨name.labels ++ [bytesOf label]⟩ [] rest := by
  rw [readLabels_chars isLabel.chars, List.append_nil, Name.readLabels, List.reverse_reverse,
    isLabel.append_eq fits]
  rfl

theorem readLabels_dotted (notEmpty : labels ≠ []) (each : ∀ label ∈ labels, IsHostLabel label)
    (fits : name.length + (dotted labels).length + 1 ≤ Name.maxLength) {tail : List Char}
    (ends : tail = [] ∨ tail = ['.']) :
    Name.readLabels name [] (dotted labels ++ tail) =
      .ok ⟨name.labels ++ labels.map bytesOf⟩ := by
  induction labels generalizing name with
  | nil => exact absurd rfl notEmpty
  | cons label labels ih =>
      have isLabel := each label List.mem_cons_self
      cases labels with
      | nil =>
          have whole : dotted [label] = label := by simp [dotted]
          rw [whole] at fits ⊢
          rw [readLabels_last isLabel ends, isLabel.append_eq fits]
          rfl
      | cons other labels =>
          rw [dotted_cons_cons, List.length_append, List.length_cons] at fits
          have first : name.length + label.length + 1 ≤ Name.maxLength := by omega
          have next : Name.length ⟨name.labels ++ [bytesOf label]⟩ +
              (dotted (other :: labels)).length + 1 ≤ Name.maxLength := by
            rw [Name.length_concat, isLabel.length_bytesOf]
            omega
          rw [dotted_cons_cons, List.append_assoc, List.cons_append, readLabels_dot isLabel first,
            ih (by simp) (fun label member => each label (List.mem_cons_of_mem _ member)) next]
          simp

namespace HostLabels

theorem exists_first (host : HostLabels labels) :
    ∃ c rest, dotted labels = c :: rest ∧ isHostChar c = true := by
  obtain ⟨label, others, rfl⟩ := List.exists_cons_of_ne_nil host.notEmpty
  have isLabel := host.each label List.mem_cons_self
  obtain ⟨c, rest, rfl⟩ := List.exists_cons_of_ne_nil isLabel.filled
  have isChar := isLabel.chars c List.mem_cons_self
  cases others with
  | nil => exact ⟨c, rest, by simp [dotted], isChar⟩
  | cons other others => exact ⟨c, _, dotted_cons_cons (c :: rest) other others, isChar⟩

/-- A host is read as the name of its labels, with a dot at its end or without. -/
theorem ofHost_eq (host : HostLabels labels) {tail : List Char} (ends : tail = [] ∨ tail = ['.']) :
    Name.ofHost (String.ofList (dotted labels ++ tail)) = .ok (nameOf labels) := by
  have root : Name.length .root = 1 := rfl
  have limit : Name.maxLength = 255 := rfl
  have total := host.total
  have read := @readLabels_dotted labels .root host.notEmpty host.each (by omega) tail ends
  have filled : ¬ (dotted labels ++ tail = [] ∨ dotted labels ++ tail = ['.']) := by
    obtain ⟨c, rest, whole, isChar⟩ := host.exists_first
    have noDot : c ≠ '.' := isHostChar_ne isChar (by decide)
    simp [whole, noDot]
  unfold Name.ofHost
  simp only [String.toList_ofList]
  rw [read]
  simp only [Bool.or_eq_true, decide_eq_true_eq, if_neg filled]
  rfl

theorem writable (host : HostLabels labels) : (nameOf labels).Writable where
  filled := by
    intro bytes member
    obtain ⟨label, inLabels, rfl⟩ := List.mem_map.mp member
    have isLabel := host.each label inLabels
    rw [← List.length_pos_iff, isLabel.length_bytesOf, List.length_pos_iff]
    exact isLabel.filled
  short := by
    intro bytes member
    obtain ⟨label, inLabels, rfl⟩ := List.mem_map.mp member
    have isLabel := host.each label inLabels
    rw [isLabel.length_bytesOf]
    exact isLabel.short
  fits := Name.ofHost_fits (host.ofHost_eq (.inl rfl))

end HostLabels

end ProxyDial.Dns

namespace ProxyDial.ProxiedResolver
open Text Dns

/-- The two bytes in front of a message tell its length. -/
theorem frame_eq {message : Bytes} (small : message.length < 65536) :
    ∃ high low : UInt8, frame message = high :: low :: message ∧
      message.length = high.toNat * 256 + low.toNat := by
  refine ⟨_, _, rfl, ?_⟩
  rw [UInt8.toNat_ofNat', UInt8.toNat_ofNat']
  omega

/-- One packet is said. A talk that says less of it fails, since no time is left for it or the peer
takes no more. -/
def SendsOne {α : Type} (socket : Socket) (options : DialOptions) (packet : Bytes)
    (result : Except Abort α) (packets : Bytes) (behind : World) : Prop :=
  packets = packet ∨ packets <+: packet ∧ packets ≠ packet ∧
    ∃ error, result = .error (.failed error) ∧ socket.Unsaid options behind error

/-- An exchange says its query, and nothing else. -/
theorem Exchange.sendsOne {talk : Talk} {question : Question} {id : UInt16} {behind : World}
    {outcome : Outcome} {packets replies : Bytes}
    (exchange : Exchange talk question id behind outcome packets replies) (host : String)
    (left : Connection) :
    SendsOne talk.socket talk.options (frame (Dns.encodeQuery id question))
      (outcome.handedOn host left) packets behind := by
  cases exchange with
  | unsaid inPart notWhole fails => exact .inr ⟨inPart, notWhole, _, rfl, fails⟩
  | cutLength => exact .inl rfl
  | cutReply => exact .inl rfl
  | answered => exact .inl rfl

/-- The query goes under the number that has been drawn. -/
theorem exchange_sends {peer : Peer} {script : Bytes → Bytes} {options : DialOptions}
    {host : String} {name : Name} {type : RecordType} (delivers : peer.Delivers script)
    (encodes : Name.ofHost host = .ok name) {connection : Connection} {world : World}
    {said got : Bytes} (tunnels : connection.Tunnels peer script said got world) :
    (exchange host type options connection).Ensures world fun result behind =>
      ∃ packets replies, ∃ left : Connection,
        SendsOne connection.socket options
          (frame (Dns.encodeQuery (world.numbers world.drawn) ⟨name, type⟩)) result packets behind ∧
        left.socket = connection.socket ∧
        left.Tunnels peer script (said ++ packets) (got ++ replies) behind := by
  have conducts : connection.Conducts peer script world.codec
      (fun start => start.numbers start.drawn = world.numbers world.drawn)
      (exchange host type options connection) _ :=
    exchange_conducts delivers encodes type connection (world.numbers world.drawn)
  refine (conducts world said got rfl rfl tunnels).mono ?_
  rintro result behind ⟨packets, replies, left, ⟨outcome, exchange, rfl⟩, same, tunnels, -⟩
  exact ⟨packets, replies, left, exchange.sendsOne host left, same, tunnels⟩

/-- The query for a host, and the packet that is sent with it, ask a nameserver one question: for
the addresses of one family of the name that the labels of the host make up. A dot at the end of the
host makes no difference. -/
theorem query_is_question {labels : List (List Char)} (host : HostLabels labels)
    {type : RecordType} (family : type = .a ∨ type = .aaaa) (id : UInt16) :
    ∃ message, Asks message id ⟨nameOf labels, type⟩ ∧
      (∃ high low : UInt8, frame message = high :: low :: message ∧
        message.length = high.toNat * 256 + low.toNat) ∧
      ∀ written, written = String.ofList (dotted labels) ∨
          written = String.ofList (dotted labels) ++ "." →
        encodeQuery id written type = .ok message ∧
        ∀ (peer : Peer) (script : Bytes → Bytes) (options : DialOptions) (connection : Connection)
          (world : World) (said got : Bytes), peer.Delivers script →
          connection.Tunnels peer script said got world → world.numbers world.drawn = id →
          (exchange written type options connection).Ensures world fun result behind =>
            ∃ packets replies, ∃ left : Connection,
              SendsOne connection.socket options (frame message) result packets behind ∧
              left.socket = connection.socket ∧
              left.Tunnels peer script (said ++ packets) (got ++ replies) behind := by
  have encodes : ∀ written, written = String.ofList (dotted labels) ∨
        written = String.ofList (dotted labels) ++ "." →
      Name.ofHost written = .ok (nameOf labels) := by
    rintro written (rfl | rfl)
    · have read := host.ofHost_eq (.inl rfl)
      rw [List.append_nil] at read
      exact read
    · have read := host.ofHost_eq (.inr rfl)
      have dot : String.ofList (dotted labels ++ ['.']) = String.ofList (dotted labels) ++ "." := by
        rw [← String.toList_inj]
        simp
      rw [dot] at read
      exact read
  have small := encodeQuery_fits (encodes _ (.inl rfl)) id type
  refine ⟨_, asks_encodeQuery id host.writable family, frame_eq small, ?_⟩
  intro written isHost
  constructor
  · rw [encodeQuery, encodes written isHost]
  · rintro peer script options connection world said got delivers tunnels rfl
    exact exchange_sends delivers (encodes written isHost) tunnels

/-- Two labels, and a dot behind the last one. -/
theorem query_for_db_internal :
    HostLabels ["db".toList, "internal".toList] ∧
    ∃ message, Asks message 0 ⟨nameOf ["db".toList, "internal".toList], .aaaa⟩ ∧
      encodeQuery 0 "db.internal." .aaaa = .ok message ∧
      (exchange "db.internal." .aaaa exchangeOptions nameserverConnection).Ensures (replyWorld [])
        fun result behind => ∃ packets replies, ∃ left : Connection,
          SendsOne nameserverConnection.socket exchangeOptions (frame message) result packets
            behind ∧
          left.Tunnels (.ofStream (frame []) (.closed ⟨0⟩)) (fun _ => frame []) packets replies
            behind := by
  have db : IsHostLabel "db".toList := ⟨by simp, by simp, by simp [isHostChar], by simp⟩
  have internal : IsHostLabel "internal".toList := ⟨by simp, by simp, by simp [isHostChar], by simp⟩
  have host : HostLabels ["db".toList, "internal".toList] :=
    ⟨by decide, by simpa using ⟨db, internal⟩, by decide⟩
  have written :
      "db.internal." = String.ofList (dotted ["db".toList, "internal".toList]) ++ "." := by
    decide +kernel
  have delivers := (Peer.ofStream_plays (frame [])).delivers
  have tunnels : nameserverConnection.Tunnels (.ofStream (frame []) (.closed ⟨0⟩))
      (fun _ => frame []) [] [] (replyWorld []) :=
    ⟨rfl, World.linked_talks _, List.nil_prefix⟩
  obtain ⟨message, asks, -, sent⟩ := query_is_question host (.inr rfl) 0
  obtain ⟨encodes, talks⟩ := sent _ (.inr written)
  refine ⟨host, message, asks, encodes, ?_⟩
  apply (talks _ _ exchangeOptions _ _ _ _ delivers tunnels rfl).mono
  rintro result behind ⟨packets, replies, left, one, -, tunnels⟩
  exact ⟨packets, replies, left, one, tunnels⟩

end ProxyDial.ProxiedResolver
