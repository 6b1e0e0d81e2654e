import ProxyDial.Text.Base64
import ProxyDial.Text.Quoted

set_option autoImplicit false

/-! Texts that carry binary objects: sections between a line that begins with `-----BEGIN` and one
that begins with `-----END`, each with a label that says what the section holds, and base64 in
between. What stands outside of sections has no meaning. -/

namespace ProxyDial.Text.Pem

/-- What a section holds. -/
inductive Label
  | certificate | publicKey | rsaPrivateKey | privateKey | ecPrivateKey
  | revocationList | certificateRequest | encryptedHello
  deriving DecidableEq, Repr

namespace Label

def all : List Label :=
  [certificate, publicKey, rsaPrivateKey, privateKey, ecPrivateKey, revocationList,
    certificateRequest, encryptedHello]

def text : Label → String
  | certificate => "CERTIFICATE"
  | publicKey => "PUBLIC KEY"
  | rsaPrivateKey => "RSA PRIVATE KEY"
  | privateKey => "PRIVATE KEY"
  | ecPrivateKey => "EC PRIVATE KEY"
  | revocationList => "X509 CRL"
  | certificateRequest => "CERTIFICATE REQUEST"
  | encryptedHello => "ECHCONFIG"

def ofBytes? (written : Bytes) : Option Label := all.find? fun label => utf8 label.text = written

end Label

structure Section where
  label : Label
  content : Bytes
  deriving DecidableEq, Repr

/-- Why a text has no further sections that can be read. -/
inductive Problem
  | illegalStart (line : Bytes)
  | missingEnd (label : Bytes)
  | base64 (problem : Base64.Problem)
  deriving DecidableEq, Repr

def Problem.message : Problem → String
  | illegalStart line => "illegal section start: " ++ quoted (lossy line)
  | missingEnd label => "section end " ++ quoted (lossy label) ++ " missing"
  | base64 problem => problem.message

private def lineFeed : UInt8 := 0x0a
private def carriageReturn : UInt8 := 0x0d
private def space : UInt8 := 0x20
private def dash : UInt8 := 0x2d

private def fiveDashes : Bytes := List.replicate 5 dash

/-- The lines, each with the character that ends it. Either of the two line characters does. -/
def lines : Bytes → List Bytes
  | [] => []
  | byte :: rest =>
      if byte = lineFeed || byte = carriageReturn then [byte] :: lines rest
      else match lines rest with
        | [] => [[byte]]
        | line :: more => (byte :: line) :: more

private def beginMark : Bytes := utf8 "-----BEGIN "

private def endMark : Bytes := utf8 "-----END "

/-- The end of a line from its first dash on, as far back as there are only dashes, spaces and line
characters. -/
private def dashesAtEnd (line : Bytes) : Bytes :=
  let isMark (byte : UInt8) : Bool :=
    byte = dash || byte = space || byte = lineFeed || byte = carriageReturn
  ((line.reverse.takeWhile isMark).reverse).dropWhile (· ≠ dash)

/-- The label of a line that begins a section: what stands between the mark and five dashes at the
end. -/
def labelOf (line : Bytes) : Except Problem Bytes :=
  let trailer := dashesAtEnd line
  if trailer.count dash = 5 then
    .ok ((line.take (line.length - trailer.length)).drop beginMark.length)
  else .error (.illegalStart line)

/-- Whether a line ends the section with a label. -/
def isEndOf (label line : Bytes) : Bool := (endMark ++ label ++ fiveDashes).isPrefixOf line

/-- A section that has been begun: its label, and what has been read of its content. -/
private structure Draft where
  label : Bytes
  content : Bytes

/-- The sections up to the first problem, and that problem. A section that begins inside of another
one takes its place; one with an unknown label is passed over. -/
private def read : Option Draft → List Bytes → List Section × Option Problem
  | none, [] => ([], none)
  | some draft, [] => ([], some (.missingEnd draft.label))
  | draft, line :: rest =>
      if beginMark.isPrefixOf line then
        match labelOf line with
        | .ok label => read (some ⟨label, []⟩) rest
        | .error problem => ([], some problem)
      else match draft with
        | none => read none rest
        | some draft =>
            if isEndOf draft.label line then
              match Label.ofBytes? draft.label with
              | none => read none rest
              | some label =>
                  match Base64.decode draft.content with
                  | .error problem => ([], some (.base64 problem))
                  | .ok content =>
                      let (more, problem) := read none rest
                      (⟨label, content⟩ :: more, problem)
            else read (some { draft with content := draft.content ++ line }) rest

/-- The sections of a text up to its first problem, and that problem. -/
def sections (text : Bytes) : List Section × Option Problem := read none (lines text)

end ProxyDial.Text.Pem
