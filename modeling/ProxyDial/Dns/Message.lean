import ProxyDial.Address.Ip
import ProxyDial.Dns.Name

set_option autoImplicit false

/-! Messages of the domain name system (RFC 1035): the questions that are asked, and the answers to
them as far as they hold addresses. -/

namespace ProxyDial.Dns
open Text

/-- The types of records that matter here; all others are told apart by their number. -/
inductive RecordType
  | a
  | aaaa
  | other (code : UInt16)
  deriving DecidableEq, Repr

namespace RecordType

def code : RecordType → UInt16
  | a => 1
  | aaaa => 28
  | other code => code

def ofCode (code : UInt16) : RecordType :=
  if code = 1 then a else if code = 28 then aaaa else other code

end RecordType

structure Question where
  name : Name
  type : RecordType
  deriving DecidableEq, Repr

/-- What a record holds. -/
inductive RecordData
  | address (ip : IpAddress)
  | name (name : Name)
  /-- Data of another kind, or none. -/
  | bytes (content : Bytes)
  deriving DecidableEq, Repr

structure ResourceRecord where
  owner : Name
  type : RecordType
  data : RecordData
  deriving DecidableEq, Repr

/-- The outcome of a query: twelve bits. -/
structure ResponseCode where
  value : Nat
  deriving DecidableEq, Repr

namespace ResponseCode

def noError : ResponseCode := ⟨0⟩

def noSuchName : ResponseCode := ⟨3⟩

def name (code : ResponseCode) : String :=
  match code.value with
  | 0 => "NoError"
  | 1 => "FormErr"
  | 2 => "ServFail"
  | 3 => "NXDomain"
  | 4 => "NotImp"
  | 5 => "Refused"
  | 6 => "YXDomain"
  | 7 => "YXRRSet"
  | 8 => "NXRRSet"
  | 9 => "NotAuth"
  | 10 => "NotZone"
  | 16 => "BADVERS"
  | 17 => "BADKEY"
  | 18 => "BADTIME"
  | 19 => "BADMODE"
  | 20 => "BADNAME"
  | 21 => "BADALG"
  | 22 => "BADTRUNC"
  | 23 => "BADCOOKIE"
  | value => "Unknown(" ++ toString value ++ ")"

end ResponseCode

structure Message where
  id : UInt16
  isResponse : Bool
  code : ResponseCode
  questions : List Question
  answers : List ResourceRecord
  deriving DecidableEq, Repr

def wide (value : UInt16) : Bytes := [(value >>> 8).toUInt8, value.toUInt8]

/-- The message that asks one question and wants the server to find the answer. -/
def encodeQuery (id : UInt16) (question : Question) : Bytes :=
  wide id ++ [0x01, 0x00] ++ wide 1 ++ wide 0 ++ wide 0 ++ wide 0 ++ question.name.encode ++
    wide question.type.code ++ wide 1

/-- Why bytes are no message. -/
inductive DecodeProblem
  | tooShort
  | pointerForward (index target : Nat)
  | overlap (label other : Nat)
  | labelCode (byte : UInt8)
  | longName (length : Nat)
  | dataTooLong (length remaining : Nat)
  | dataLength (read length : Nat)
  | misplaced (type : Nat)
  | secondOptions
  | optionsNotAtRoot
  deriving DecidableEq, Repr

/-- The binary digits of a number. -/
def binary (n : Nat) : String := String.ofList (Nat.toDigits 2 n)

def DecodeProblem.message : DecodeProblem → String
  | tooShort => "unexpected end of input reached"
  | pointerForward index target =>
      "label points to data not prior to idx: " ++ toString index ++ " ptr: " ++ toString target
  | overlap label other =>
      "overlapping labels name " ++ toString label ++ " other " ++ toString other
  | labelCode byte => "unrecognized label code: " ++ binary byte.toNat
  | longName length => "name label data exceed 255: " ++ toString length
  | dataTooLong length remaining =>
      "rdata length too large for remaining bytes, need: " ++ toString length ++ " remain: " ++
        toString remaining
  | dataLength read length =>
      "incorrect rdata length read: " ++ toString read ++ " expected: " ++ toString length
  | misplaced type =>
      "record type " ++ toString type ++ " only allowed in additional section"
  | secondOptions => "more than one edns record present"
  | optionsNotAtRoot => "edns resource record label must be the root label (.)"

/-- The byte at an index; all readers go from an index to the one behind what they read. -/
def readByte (message : Bytes) (index : Nat) : Except DecodeProblem (UInt8 × Nat) :=
  match message[index]? with
  | some byte => .ok (byte, index + 1)
  | none => .error .tooShort

def readWide (message : Bytes) (index : Nat) : Except DecodeProblem (Nat × Nat) := do
  let (high, index) ← readByte message index
  let (low, index) ← readByte message index
  return (high.toNat * 256 + low.toNat, index)

def readBytes (count : Nat) (message : Bytes) (index : Nat) :
    Except DecodeProblem (Bytes × Nat) :=
  let found := (message.drop index).take count
  if found.length < count then .error .tooShort else .ok (found, index + count)

/-- The labels from an index on. A pointer goes on at an earlier place and ends the name there;
labels that are reached through one must end in front of the name with the pointer. Every step goes
forward in the message or to an earlier name, so `steps` of twice its length are enough. -/
def readLabelsAt (message : Bytes) : (steps : Nat) → (start : Nat) → (bound : Option Nat) →
    (name : Name) → (index : Nat) → Except DecodeProblem (Name × Nat)
  | 0, _, _, _, _ => .error .tooShort
  | steps + 1, start, bound, name, index => do
      if let some bound := bound then
        if bound ≤ index then .error (.overlap start bound)
      if name.length > Name.maxLength then .error (.longName name.length)
      let (byte, behind) ← readByte message index
      if byte = 0 then return (name, behind)
      else if byte ≥ 0xc0 then
        let (pointer, behind) ← readWide message index
        let target := pointer % 0x4000
        if target ≥ start then .error (.pointerForward index target)
        let (name, _) ← readLabelsAt message steps target (some start) name target
        return (name, behind)
      else if byte ≥ 0x40 then .error (.labelCode byte)
      else
        let (label, behind) ← readBytes byte.toNat message behind
        let extended : Name := ⟨name.labels ++ [label]⟩
        if extended.length > Name.maxLength then .error (.longName label.length)
        readLabelsAt message steps start bound extended behind

def readName (message : Bytes) (index : Nat) : Except DecodeProblem (Name × Nat) :=
  readLabelsAt message (2 * message.length + 2) index none .root index

def readQuestion (message : Bytes) (index : Nat) :
    Except DecodeProblem (Question × Nat) := do
  let (name, index) ← readName message index
  let (type, index) ← readWide message index
  let (_, index) ← readWide message index
  return (⟨name, .ofCode (UInt16.ofNat type)⟩, index)

def optionsType : UInt16 := 41

/-- Types of records that stand behind all others only: options and signatures of the message. -/
def isAdditionalOnly (code : UInt16) : Bool :=
  code = optionsType || code = 24 || code = 250

/-- Types whose data is a name. -/
def holdsName (code : UInt16) : Bool := code = 2 || code = 5 || code = 12

def readData (type : RecordType) (length : Nat) (message : Bytes) (index : Nat) :
    Except DecodeProblem (RecordData × Nat) := do
  match type with
  | .a =>
      let (octets, index) ← readBytes 4 message index
      return (.address (.v4 ⟨octets.getD 0 0, octets.getD 1 0, octets.getD 2 0, octets.getD 3 0⟩),
        index)
  | .aaaa =>
      let (octets, index) ← readBytes 16 message index
      return (.address (.v6 (.ofOctets octets)), index)
  | .other code =>
      if holdsName code then
        let (name, index) ← readName message index
        return (.name name, index)
      else
        let (content, index) ← readBytes length message index
        return (.bytes content, index)

/-- A record, and the high bits of the response code where it holds options. -/
def readRecord (message : Bytes) (index : Nat) :
    Except DecodeProblem ((ResourceRecord × Nat) × Nat) := do
  let (owner, index) ← readName message index
  let (code, index) ← readWide message index
  if code = optionsType.toNat && owner ≠ .root then .error .optionsNotAtRoot
  let (_, index) ← readWide message index
  let (lifetime, index) ← readBytes 4 message index
  let (length, index) ← readWide message index
  let remaining := message.length - index
  if length > remaining then .error (.dataTooLong length remaining)
  let type := RecordType.ofCode (UInt16.ofNat code)
  let high := (lifetime.getD 0 0).toNat
  if length = 0 then return ((⟨owner, type, .bytes []⟩, high), index)
  let (data, behind) ← readData type length message index
  if behind - index ≠ length then .error (.dataLength (behind - index) length)
  return ((⟨owner, type, data⟩, high), behind)

/-- So many records that stand in front of the additional ones. -/
def readRecords (message : Bytes) : (count : Nat) → (index : Nat) →
    Except DecodeProblem (List ResourceRecord × Nat)
  | 0, index => .ok ([], index)
  | count + 1, index => do
      let ((record, _), index) ← readRecord message index
      if isAdditionalOnly record.type.code then .error (.misplaced record.type.code.toNat)
      let (records, index) ← readRecords message count index
      return (record :: records, index)

/-- The high bits of the response code that the additional records hold. -/
def readAdditional (message : Bytes) :
    (count : Nat) → (found : Option Nat) → (index : Nat) → Except DecodeProblem (Option Nat)
  | 0, found, _ => .ok found
  | count + 1, found, index => do
      let ((record, high), index) ← readRecord message index
      if record.type.code = optionsType then
        if found.isSome then .error .secondOptions
        readAdditional message count (some high) index
      else readAdditional message count found index

def readQuestions (message : Bytes) : (count : Nat) → (index : Nat) →
    Except DecodeProblem (List Question × Nat)
  | 0, index => .ok ([], index)
  | count + 1, index => do
      let (question, index) ← readQuestion message index
      let (questions, index) ← readQuestions message count index
      return (question :: questions, index)

namespace Message

/-- The message at the start of the bytes. -/
def decode (bytes : Bytes) : Except DecodeProblem Message := do
  let (id, index) ← readWide bytes 0
  let (flags, index) ← readWide bytes index
  let (questionCount, index) ← readWide bytes index
  let (answerCount, index) ← readWide bytes index
  let (authorityCount, index) ← readWide bytes index
  let (additionalCount, index) ← readWide bytes index
  let (questions, index) ← readQuestions bytes questionCount index
  let (answers, index) ← readRecords bytes answerCount index
  let (_, index) ← readRecords bytes authorityCount index
  let high ← readAdditional bytes additionalCount none index
  return ⟨UInt16.ofNat id, flags ≥ 0x8000, ⟨16 * high.getD 0 + flags % 16⟩, questions, answers⟩

/-- The message at the start of the bytes, or the words for why there is none. -/
def read (bytes : Bytes) : Except String Message := (decode bytes).mapError DecodeProblem.message

/-- The addresses that the answers hold, in their order. -/
def addresses (message : Message) : List IpAddress :=
  message.answers.filterMap fun record =>
    match record.data with
    | .address ip => some ip
    | _ => none

end Message

end ProxyDial.Dns
