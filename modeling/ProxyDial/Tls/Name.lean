import ProxyDial.Address.Ip
import ProxyDial.Text.Cut
import ProxyDial.Tls.Certificate

set_option autoImplicit false

/-! Names of servers: the one that a client expects, those that a certificate has been issued for,
and those that the issuer of a certificate may issue certificates for. -/

namespace ProxyDial.Tls
open Text

/-- A name that a certificate has been issued for. -/
inductive AlternativeName
  | dns (name : Bytes)
  | directory
  | ip (octets : Bytes)
  | locator (text : Bytes)
  /-- A name of another kind. -/
  | other (tag : UInt8)
  deriving DecidableEq, Repr

namespace AlternativeName

def read : Der.Reader AlternativeName := do
  let (tag, content) ← Der.value
  if tag = Der.Tag.part 2 then return dns content
  else if tag = Der.Tag.wrapped 4 then return directory
  else if tag = Der.Tag.part 7 then return ip content
  else if tag = Der.Tag.part 6 then return locator content
  else if tag ∈
      [Der.Tag.wrapped 0, Der.Tag.part 1, Der.Tag.wrapped 3, Der.Tag.wrapped 5, Der.Tag.part 8]
  then return other tag
  else failure

/-- The names up to the first that cannot be read, and whether there is such a one. Each takes at
least one byte, so `room` for as many as there are bytes is enough. -/
private def readAll : (room : Nat) → Bytes → List AlternativeName × Bool
  | _, [] => ([], false)
  | 0, _ => ([], true)
  | room + 1, bytes =>
      match read bytes with
      | none => ([], true)
      | some (name, rest) =>
          let (names, broken) := readAll room rest
          (name :: names, broken)

/-- The names of a certificate up to the first that cannot be read, and whether there is such a one.
-/
def ofCertificate (certificate : Certificate) : List AlternativeName × Bool :=
  let bytes := certificate.alternativeNames.getD []
  readAll bytes.length bytes

private def hexByte (byte : UInt8) : String := "0x" ++ hex [byte]

/-- The name in diagnostics. -/
def shown : AlternativeName → String
  | dns name => "DnsName(\"" ++ lossy name ++ "\")"
  | directory => "DirectoryName"
  | ip octets =>
      match octets with
      | [a, b, c, d] => "IpAddress(" ++ toString (⟨a, b, c, d⟩ : Ipv4) ++ ")"
      | _ => "IpAddress(" ++ toString (Ipv6.ofOctets octets) ++ ")"
  | locator text => "UniformResourceIdentifier(\"" ++ lossy text ++ "\")"
  | other tag => "Unsupported(" ++ hexByte tag ++ ")"

end AlternativeName

/-- What a domain name is used for. -/
inductive NameRole
  /-- It is the one that a client expects. -/
  | expected
  /-- A certificate shows it. -/
  | presented
  /-- It bounds the names in certificates. -/
  | constraint
  deriving DecidableEq, Repr

namespace DomainName

def maxLength : Nat := 253

def maxLabelLength : Nat := 63

private def isLabelChar (c : Char) : Bool := c.isAlphanum || c = '-' || c = '_'

private def isLabel (label : List Char) : Bool :=
  !label.isEmpty && label.length ≤ maxLabelLength && label.all isLabelChar &&
    label.head? ≠ some '-' && label.getLast? ≠ some '-'

/-- Whether labels make a domain name; the last one is more than a number. -/
private def areLabels (labels : List (List Char)) : Bool :=
  labels.all isLabel && !(labels.getLast?.any fun label => label.all Char.isDigit)

/-- The labels without an empty last one, which stands for the root. -/
private def withoutRoot (labels : List (List Char)) : List (List Char) :=
  if labels.getLast? = some [] then labels.dropLast else labels

/-- Whether a text is a domain name that is fit for its use. An expected name may end with a dot, a
presented one may have an asterisk for its first of three or more labels, and a constraint may begin
with a dot or be empty. -/
def isValid (role : NameRole) (name : List Char) : Bool :=
  let labels := name.splitOn '.'
  name.length ≤ maxLength && match role, labels with
  | .constraint, [[]] => true
  | .constraint, [] :: rest => areLabels rest && !rest.isEmpty
  | .constraint, labels => areLabels labels
  | .presented, ['*'] :: rest => areLabels rest && 2 ≤ rest.length
  | .presented, labels => areLabels labels
  | .expected, labels =>
      !(withoutRoot labels).isEmpty && areLabels (withoutRoot labels)

private def lower (name : List Char) : List Char := name.map Char.toLower

/-- Whether a presented name covers an expected one. An asterisk stands for any one label. -/
def covers (presented expected : List Char) : Bool :=
  let expected := withoutRoot ((lower expected).splitOn '.')
  match (lower presented).splitOn '.', expected with
  | ['*'] :: labels, _ :: rest => labels = rest
  | labels, expected => labels = expected

/-- Whether a presented name lies within a constraint: it is the name itself or any below it, and
where the constraint begins with a dot, any below it. -/
def liesWithin (presented constraint : List Char) : Bool :=
  let presented := (lower presented).splitOn '.'
  match (lower constraint).splitOn '.' with
  | [[]] => true
  | [] :: labels => labels.length < presented.length && labels.isSuffixOf presented
  | labels =>
      labels.isSuffixOf presented ||
        match presented, labels with
        | ['*'] :: rest, _ :: behind => rest = behind
        | _, _ => false

end DomainName

/-- The name that a client expects a server to have. -/
inductive ServerName
  | domain (name : String)
  | address (ip : IpAddress)
  deriving DecidableEq, Repr

namespace ServerName

def ofString? (text : String) : Option ServerName :=
  if DomainName.isValid .expected text.toList then some (domain text)
  else (IpAddress.ofString? text).map address

instance : ToString ServerName where
  toString
    | domain name => name
    | address ip => toString ip

private def octets : IpAddress → Bytes
  | .v4 ip => ip.octets
  | .v6 ip => ip.octets

private def asciiChars (bytes : Bytes) : List Char := bytes.map fun byte => Char.ofNat byte.toNat

/-- Whether a name of a certificate is the expected one, or covers it. -/
def isCoveredBy (expected : ServerName) : AlternativeName → Bool
  | .dns presented =>
      match expected with
      | domain name =>
          DomainName.isValid .presented (asciiChars presented) &&
            DomainName.covers (asciiChars presented) name.toList
      | address _ => false
  | .ip presented =>
      match expected with
      | domain _ => false
      | address ip => presented = octets ip
  | _ => false

/-- Checks that a certificate has been issued for a name. -/
def check (expected : ServerName) (certificate : Certificate) : Except CertificateFault Unit :=
  let (names, broken) := AlternativeName.ofCertificate certificate
  if names.any expected.isCoveredBy then .ok ()
  else if broken then .error .badEncoding
  else .error (.wrongName (toString expected) (names.map AlternativeName.shown))

end ServerName

/-- The names that certificates below one may have. -/
structure NameConstraints where
  permitted : List AlternativeName
  excluded : List AlternativeName

namespace NameConstraints

private def subtree : Der.Reader AlternativeName := Der.nested Der.Tag.sequence AlternativeName.read

private def readSubtrees? : (room : Nat) → Bytes → Option (List AlternativeName)
  | _, [] => some []
  | 0, _ => none
  | room + 1, bytes => do
      let (name, rest) ← subtree bytes
      return name :: (← readSubtrees? room rest)

private def parts : Der.Reader (Option Bytes × Option Bytes) := do
  let permitted ← Der.optional (Der.Tag.wrapped 0)
  return (permitted, ← Der.optional (Der.Tag.wrapped 1))

def ofBytes? (bytes : Bytes) : Option NameConstraints := do
  let (permitted, excluded) ← Der.whole parts bytes
  let permitted := permitted.getD []
  let excluded := excluded.getD []
  return ⟨← readSubtrees? permitted.length permitted, ← readSubtrees? excluded.length excluded⟩

/-- Whether a mask is a row of ones and then zeros. -/
private def isMask (mask : Bytes) : Bool :=
  let zeros := Nat.pow 2 (8 * mask.length) - 1 - Der.toNat mask
  zeros &&& (zeros + 1) = 0

/-- Whether an address lies within a constraint: an address and a mask behind it. -/
def ipWithin (octets constraint : Bytes) : Except CertificateFault Bool :=
  let size := octets.length
  if size ≠ 4 && size ≠ 16 then .error .badEncoding
  else if constraint.length = 40 - 2 * size then .ok false
  else if constraint.length ≠ 2 * size then .error (.rule .networkMask)
  else
    let mask := constraint.drop size
    if isMask mask then
      .ok (octets.zipWith (· &&& ·) mask = (constraint.take size).zipWith (· &&& ·) mask)
    else .error (.rule .networkMask)

private def asciiChars (bytes : Bytes) : List Char := bytes.map fun byte => Char.ofNat byte.toNat

/-- Whether a name lies within a constraint; nothing where they are of different kinds. Constraints
on directory names are met by no name, whether they permit or exclude. -/
def liesWithin (permits : Bool) (name constraint : AlternativeName) :
    Option (Except CertificateFault Bool) :=
  match name, constraint with
  | .dns name, .dns constraint =>
      let name := asciiChars name
      let constraint := asciiChars constraint
      some <|
        if !DomainName.isValid .presented name then .error (.rule .malformedName)
        else if !DomainName.isValid .constraint constraint then .error (.rule .malformedConstraint)
        else .ok (DomainName.liesWithin name constraint)
  | .directory, .directory => some (.ok (!permits))
  | .ip octets, .ip constraint => some (ipWithin octets constraint)
  | .other tag, .other kind => if tag = kind then some (.error (.rule .nameConstraint)) else none
  | _, _ => none

/-- Checks one name: where constraints of its kind permit names, one of them must permit it, and
none may exclude it. -/
def check (constraints : NameConstraints) (name : AlternativeName) :
    Except CertificateFault Unit := do
  let permits ← (constraints.permitted.filterMap (liesWithin true name)).mapM id
  if !permits.isEmpty && !permits.any id then throw (.rule .nameConstraint)
  let excludes ← (constraints.excluded.filterMap (liesWithin false name)).mapM id
  if excludes.any id then throw (.rule .nameConstraint)

end NameConstraints

end ProxyDial.Tls
