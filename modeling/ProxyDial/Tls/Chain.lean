import ProxyDial.Tls.Name
import ProxyDial.Tls.Signature

set_option autoImplicit false

/-! Whether a chain of certificates leads from a server to an anchor: each certificate is in its
time, may be used for what it is used for, and is signed by the next one, the last by the anchor. -/

namespace ProxyDial.Tls
open Text

namespace Certificate

private def digits? (bytes : Bytes) : Option Nat :=
  bytes.foldlM
    (fun number byte =>
      if 0x30 ≤ byte && byte ≤ 0x39 then some (10 * number + (byte.toNat - 0x30)) else none) 0

/-- Days from the first day of 1970 to a day of the calendar, for years from 1970 on. -/
private def days (year month day : Nat) : Nat :=
  let year := if month ≤ 2 then year - 1 else year
  let month := if month ≤ 2 then month + 9 else month - 3
  365 * year + year / 4 - year / 100 + year / 400 + (153 * month + 2) / 5 + day - 719469

private def isLeap (year : Nat) : Bool := year % 4 = 0 && (year % 100 ≠ 0 || year % 400 = 0)

private def monthLength (year month : Nat) : Nat :=
  if month = 2 then if isLeap year then 29 else 28
  else if month ∈ [4, 6, 9, 11] then 30 else 31

/-- The time that ten digits behind a year and a `Z` write, in seconds since 1970. -/
private def timeIn? (year : Nat) (bytes : Bytes) : Option Nat := do
  let part (index : Nat) : Option Nat := digits? ((bytes.drop (2 * index)).take 2)
  let month ← part 0
  let day ← part 1
  let hour ← part 2
  let minute ← part 3
  let second ← part 4
  if bytes.length = 11 && bytes.getLast? = some 0x5a && 1 ≤ month && month ≤ 12 && 1 ≤ day &&
      day ≤ monthLength year month && hour < 24 && minute < 60 && second < 60 && 1970 ≤ year then
    return ((days year month day * 24 + hour) * 60 + minute) * 60 + second
  else none

/-- An instant, in seconds since 1970. A year of two digits lies between 1950 and 2049. -/
private def time : Der.Reader Nat := do
  let (tag, content) ← Der.value
  if tag = Der.Tag.utcTime then
    let year ← (digits? (content.take 2) : Option Nat)
    (timeIn? (if year ≥ 50 then 1900 + year else 2000 + year) (content.drop 2) : Option Nat)
  else if tag = Der.Tag.generalizedTime then
    let year ← (digits? (content.take 4) : Option Nat)
    (timeIn? year (content.drop 4) : Option Nat)
  else failure

/-- The first and the last second in which a certificate may be used. -/
private def times : Der.Reader (Nat × Nat) := do
  let first ← time
  return (first, ← time)

def checkTime (certificate : Certificate) (now : Nat) : Except CertificateFault Unit :=
  match Der.whole times certificate.validity with
  | none => .error .badEncoding
  | some (first, last) =>
      if last < first then .error .neverValid
      else if now < first then .error (.notYetValid now first)
      else if last < now then .error (.expired now last)
      else .ok ()

/-- Whether a certificate may issue others, and how many may stand between it and the last one. -/
private def issuing : Der.Reader (Bool × Option Nat) := do
  let issues ← Der.flag
  if ← Der.atEnd then return (issues, none)
  else return (issues, some (← Der.smallNatural).toNat)

/-- Checks that a certificate may stand at its place: `below` tells how many issuers stand below it,
where it is an issuer itself. -/
def checkRole (certificate : Certificate) (below : Option Nat) :
    Except CertificateFault Unit :=
  match certificate.basicConstraints.elim (some (false, none)) (Der.whole issuing) with
  | none => .error .badEncoding
  | some (issues, limit) =>
      match below with
      | none => if issues then .error (.rule .caUsedAsEndEntity) else .ok ()
      | some count =>
          if !issues then .error (.rule .endEntityUsedAsCa)
          else if limit.any (· < count) then .error (.rule .pathLength)
          else .ok ()

/-- Proving who a server is. -/
private def serverPurpose : Bytes := [0x2b, 0x06, 0x01, 0x05, 0x05, 0x07, 0x03, 0x01]

/-- The numbers of an identifier, each in digits to the base 128, all but the last of them marked.
-/
private def arcs : (pending : Nat) → Bytes → List Nat
  | _, [] => []
  | pending, byte :: rest =>
      let number := pending * 128 + byte.toNat % 128
      if byte ≥ 128 then arcs number rest else number :: arcs 0 rest

/-- The name of a purpose in diagnostics. -/
private def purposeName (id : Bytes) : String :=
  if id = serverPurpose then "server authentication"
  else if id = [0x2b, 0x06, 0x01, 0x05, 0x05, 0x07, 0x03, 0x02] then "client authentication"
  else if id = [0x2b, 0x06, 0x01, 0x05, 0x05, 0x07, 0x03, 0x09] then "OCSP signing"
  else match arcs 0 id with
    | [] => ""
    | first :: rest =>
        let high := min (first / 40) 2
        ".".intercalate ((high :: (first - 40 * high) :: rest).map toString)

/-- The purposes up to the first that cannot be read, and whether there is such a one. -/
private def readPurposes : (room : Nat) → Bytes → List Bytes × Bool
  | _, [] => ([], false)
  | 0, _ => ([], true)
  | room + 1, bytes =>
      match Der.expect Der.Tag.objectId bytes with
      | none => ([], true)
      | some (id, rest) =>
          let (more, broken) := readPurposes room rest
          (id :: more, broken)

/-- Checks that a certificate serves a purpose. One that names no purposes serves all. -/
def checkPurpose (certificate : Certificate) : Except CertificateFault Unit :=
  match certificate.purposes with
  | none => .ok ()
  | some content =>
      let (purposes, broken) := readPurposes content.length content
      if serverPurpose ∈ purposes then .ok ()
      else if broken || purposes.isEmpty then .error .badEncoding
      else .error (.wrongPurpose (purposeName serverPurpose) (purposes.map purposeName))

/-- Everything about one certificate that does not depend on its issuer. -/
def checkAlone (certificate : Certificate) (below : Option Nat) (now : Nat) :
    Except CertificateFault Unit := do
  certificate.checkTime now
  certificate.checkRole below
  certificate.checkPurpose

end Certificate

namespace Chain

/-- How many certificates may stand between a server and an anchor. -/
def maxIssuers : Nat := 6

/-- Checks the signatures of a path: each certificate, from the one at its top down, by the key
above. -/
def checkSignatures : (issuerKey : Bytes) → List Certificate → Except CertificateFault Unit
  | _, [] => .ok ()
  | issuerKey, certificate :: below => do
      certificate.checkSignature issuerKey
      checkSignatures certificate.publicKey below

/-- Checks all names of a path. Every certificate has a directory name besides. -/
def checkNames (constraints : Option Bytes) (path : List Certificate) :
    Except CertificateFault Unit :=
  match constraints with
  | none => .ok ()
  | some bytes =>
      match NameConstraints.ofBytes? bytes with
      | none => .error .badEncoding
      | some constraints =>
          path.reverse.forM fun certificate => do
            let (names, broken) := AlternativeName.ofCertificate certificate
            names.forM constraints.check
            if broken then throw .badEncoding
            constraints.check .directory

/-- Checks that names that every certificate of a path bounds are kept to by those below it. -/
def checkInnerNames : List Certificate → Except CertificateFault Unit
  | [] => .ok ()
  | certificate :: below => do
      checkNames certificate.nameConstraints below
      checkInnerNames below

/-- The weightier of two faults; the first of equally weighty ones. -/
def weightier (first second : CertificateFault) : CertificateFault :=
  if first.weight < second.weight then second else first

/-- The first success; without one, the weightiest fault. -/
def firstSuccess {α : Type} (attempt : α → Except CertificateFault Unit) :
    CertificateFault → List α → Except CertificateFault Unit
  | fault, [] => .error fault
  | fault, candidate :: rest =>
      match attempt candidate with
      | .ok () => .ok ()
      | .error other => firstSuccess attempt (weightier fault other) rest

/-- Whether an anchor ends a path. -/
def endsAt (top : Certificate) (path : List Certificate) (anchor : TrustAnchor) :
    Except CertificateFault Unit := do
  if top.issuer ≠ anchor.subject then throw .unknownIssuer
  checkSignatures anchor.publicKey path
  checkNames anchor.nameConstraints path
  checkInnerNames path

/-- Looks for a way from the top of a path to an anchor, over `room` more issuers at most. -/
def search (anchors : List TrustAnchor) (issuers : List Bytes) (now : Nat) :
    (room : Nat) → (top : Certificate) → (below : List Certificate) → Except CertificateFault Unit
  | room, top, below => do
      let path := top :: below
      let place := if below.isEmpty then none else some (below.length - 1)
      top.checkAlone place now
      match firstSuccess (endsAt top path) .unknownIssuer anchors with
      | .ok () => return ()
      | .error fault =>
          let through (bytes : Bytes) : Except CertificateFault Unit := do
            let issuer ← Certificate.ofBytes .refuse bytes
            if issuer.subject ≠ top.issuer then throw .unknownIssuer
            if path.any fun earlier =>
                earlier.publicKey = issuer.publicKey && earlier.subject = issuer.subject then
              throw .unknownIssuer
            match room with
            | 0 => throw (.rule .pathDepth)
            | room + 1 => search anchors issuers now room issuer path
          firstSuccess through fault issuers

/-- Whether the certificate of a server can be traced back to an anchor. -/
def check (anchors : List TrustAnchor) (server : Certificate) (issuers : List Bytes) (now : Nat) :
    Except CertificateFault Unit :=
  search anchors issuers now maxIssuers server []

end Chain

end ProxyDial.Tls
