import ProxyDial.Text.Bytes
import ProxyDial.Tls.Fault

set_option autoImplicit false

/-! What a client makes of bytes that are no answer to its handshake. They may be an alert, some
other record, or no record at all. -/

namespace ProxyDial.Tls.Record
open Text

def alertNames : List (UInt8 × String) :=
  [(0, "CloseNotify"), (10, "UnexpectedMessage"), (20, "BadRecordMac"), (21, "DecryptionFailed"),
    (22, "RecordOverflow"), (30, "DecompressionFailure"), (40, "HandshakeFailure"),
    (41, "NoCertificate"), (42, "BadCertificate"), (43, "UnsupportedCertificate"),
    (44, "CertificateRevoked"), (45, "CertificateExpired"), (46, "CertificateUnknown"),
    (47, "IllegalParameter"), (48, "UnknownCA"), (49, "AccessDenied"), (50, "DecodeError"),
    (51, "DecryptError"), (60, "ExportRestriction"), (70, "ProtocolVersion"),
    (71, "InsufficientSecurity"), (80, "InternalError"), (86, "InappropriateFallback"),
    (90, "UserCanceled"), (100, "NoRenegotiation"), (109, "MissingExtension"),
    (110, "UnsupportedExtension"), (111, "CertificateUnobtainable"), (112, "UnrecognisedName"),
    (113, "BadCertificateStatusResponse"), (114, "BadCertificateHashValue"),
    (115, "UnknownPSKIdentity"), (116, "CertificateRequired"), (120, "NoApplicationProtocol")]

def alertName (number : UInt8) : String :=
  ((alertNames.find? fun entry => entry.1 = number).map (·.2)).getD
    ("Unknown(" ++ toString number.toNat ++ ")")

/-- The kinds of records, by their numbers. -/
def kindNames : List (UInt8 × String) :=
  [(20, "ChangeCipherSpec"), (21, "Alert"), (22, "Handshake"), (23, "ApplicationData"),
    (24, "Heartbeat")]

/-- Records are shorter. -/
def lengthLimit : Nat := 18432

/-- What is wrong with the first record; nothing as long as it has not arrived whole. -/
def fault? : Bytes → Option Fault
  | [] => none
  | kind :: rest =>
      match kindNames.find? fun entry => entry.1 = kind with
      | none => some (.corruptMessage "InvalidContentType")
      | some (_, name) =>
          match rest with
          | major :: minor :: high :: low :: content =>
              let length := high.toNat * 256 + low.toNat
              if major ≠ 3 && !(major = 2 && minor = 0) then
                some (.corruptMessage "UnknownProtocolVersion")
              else if length = 0 && kind ≠ 23 then some (.corruptMessage "InvalidEmptyPayload")
              else if length ≥ lengthLimit then some (.corruptMessage "MessageTooLarge")
              else if content.length < length then none
              else match kind, content.take length with
                | 21, [2, number] => some (.alert (alertName number))
                | _, _ => some (.unexpected name)
          | _ => none

end ProxyDial.Tls.Record
