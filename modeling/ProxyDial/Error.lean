import ProxyDial.Fault
import ProxyDial.Tls.Fault

set_option autoImplicit false

/-! Errors of the dial path. An error has a kind, on which callers decide, and mostly a cause, which
tells what happened. The kinds of network trouble are worth another try; the others are not. -/

namespace ProxyDial

inductive ErrorKind
  /-- A setting, some TLS material or an argument of a dial is unusable. -/
  | config
  /-- The proxy, or every destination, is out of reach. -/
  | connect
  /-- The proxy or the nameserver answers with something unusable. -/
  | protocol
  /-- The keys of a client do not fit, or a handshake fails. -/
  | tls
  /-- A step of a dial runs out of time. -/
  | timeout
  /-- A name does not resolve. -/
  | resolve
  deriving DecidableEq, Repr

namespace ErrorKind

def all : List ErrorKind := [config, connect, protocol, tls, timeout, resolve]

def name : ErrorKind → String
  | config => "Config"
  | connect => "Connect"
  | protocol => "Protocol"
  | tls => "Tls"
  | timeout => "Timeout"
  | resolve => "Resolve"

def description : ErrorKind → String
  | config => "configuration error"
  | connect => "connection error"
  | protocol => "proxy protocol error"
  | tls => "tls error"
  | timeout => "dial timed out"
  | resolve => "name resolution error"

/-- Trouble that may clear up on its own. -/
def isRetryable : ErrorKind → Bool
  | connect | timeout | resolve => true
  | config | protocol | tls => false

end ErrorKind

/-- Two lower-case hexadecimal digits behind `0x`. -/
def byteCode (byte : UInt8) : String :=
  "0x" ++ String.ofList [Nat.digitChar (byte.toNat / 16), Nat.digitChar (byte.toNat % 16)]

/-- What happened. -/
inductive Cause
  /-- Something that is told in words only. -/
  | text (words : String)
  | fault (fault : Fault)
  | tls (fault : Tls.Fault)
  | timedOut
  -- Proxies
  | unsupportedScheme (scheme : String)
  | schemeNotForHosts (scheme : String)
  | notSocks (proxy : String)
  -- Destinations
  | invalidDestination (address problem : String)
  | destinationWithoutPort (address : String)
  | noCandidates
  | candidatesExhausted (candidates : List String) (failures : List (String × String))
  | noAddresses
  -- Names
  | unresolved (name problem : String)
  | nothingFound (name : String)
  | noSuchHost (host : String)
  | lookupFailed (host code : String)
  | nameserverNotAddress (text problem : String)
  | invalidHostName (host problem : String)
  | queryTooLarge (host : String)
  -- Answers of a proxy
  | malformedResponse (problem : String)
  | tunnelRejected (destination status : String)
  | socksRejected (destination : String) (code : UInt8) (reason : String)
  | socksVersion (version : UInt8)
  | socksNoMethod
  | socksMethodNotOffered
  | socksUnknownMethod (method : UInt8)
  | socksCredentialsRejected (username : String)
  | socksUnknownAddressType (type : UInt8)
  -- Requests that cannot be written
  | socksHostTooLong (host : String)
  | socksUsernameTooLong
  | socksPasswordTooLong
  -- TLS
  | alreadyEncrypted (address : String)
  | invalidServerName (host : String)
  | closedDuringHandshake (host : String)
  | emptyAuthority
  | unreadablePem (what problem : String)
  | noCertificates (what : String)
  | noPrivateKey
  | invalidAuthority (fault : Tls.Fault)
  | unusableKey (fault : Tls.Fault)
  | keyMismatch (fault : Tls.Fault)
  | certificateWithoutKey
  | keyWithoutCertificate
  -- Settings
  | invalidSettings (problem : String)
  | missingHost (setting : String)
  | zeroTimeout
  | settingNotAddress (text : String)
  | missingUsername
  | resolverWithoutProxy
  deriving DecidableEq, Repr

namespace Cause
open Text

def message : Cause → String
  | text words => words
  | fault found => found.message
  | tls found => found.message
  | timedOut => "timed out"
  | unsupportedScheme scheme => "unsupported proxy scheme: " ++ scheme
  | schemeNotForHosts scheme =>
      "the host dialer tunnels through socks5 only, got a " ++ scheme ++ " proxy"
  | notSocks proxy => "host dialer requires a socks5 proxy, got " ++ proxy
  | invalidDestination address problem =>
      "invalid destination address " ++ quoted address ++ ": " ++ problem
  | destinationWithoutPort address => "destination address " ++ quoted address ++ " has no port"
  | noCandidates => "no host candidates to dial"
  | candidatesExhausted candidates failures =>
      failures.foldl (fun text failure => text ++ "; " ++ failure.1 ++ ": " ++ failure.2)
        ("unable to dial any of [" ++ ", ".intercalate candidates ++ "]")
  | noAddresses => "no addresses to connect to"
  | unresolved name problem => "failed to resolve " ++ name ++ ": " ++ problem
  | nothingFound name => "no addresses found for " ++ name
  | noSuchHost host => "no such host: " ++ host
  | lookupFailed host code => "lookup of " ++ host ++ " failed: " ++ code
  | nameserverNotAddress written problem =>
      "DNS nameserver " ++ quoted written ++ " is not an IP address: " ++ problem
  | invalidHostName host problem => "invalid host name " ++ quoted host ++ ": " ++ problem
  | queryTooLarge host => "DNS query for " ++ host ++ " is too large"
  | malformedResponse problem => "malformed proxy response: " ++ problem
  | tunnelRejected destination status =>
      "proxy refused tunnel to " ++ destination ++ ": " ++ status
  | socksRejected destination code reason =>
      "socks5 request to " ++ destination ++ " rejected: " ++ reason ++ " (code " ++
        byteCode code ++ ")"
  | socksVersion version =>
      "expected socks version 5, proxy answered with " ++ byteCode version
  | socksNoMethod => "socks5 proxy accepted none of the offered auth methods"
  | socksMethodNotOffered => "socks5 proxy selected username/password auth that was not offered"
  | socksUnknownMethod method =>
      "socks5 proxy selected unsupported auth method " ++ byteCode method
  | socksCredentialsRejected username =>
      "socks5 proxy rejected credentials for user " ++ username
  | socksUnknownAddressType type =>
      "socks5 reply carries unknown address type " ++ byteCode type
  | socksHostTooLong host => "destination host " ++ host ++ " is too long for socks5"
  | socksUsernameTooLong => "socks5 username exceeds 255 bytes"
  | socksPasswordTooLong => "socks5 password exceeds 255 bytes"
  | alreadyEncrypted address => "connection to " ++ address ++ " is already TLS-wrapped"
  | invalidServerName host => "invalid TLS server name " ++ host ++ ": invalid dns name"
  | closedDuringHandshake host => host ++ " closed the connection during the TLS handshake"
  | emptyAuthority => "CA certificate is empty"
  | unreadablePem what problem => "unable to parse " ++ what ++ ": " ++ problem
  | noCertificates what => "no certificates found in " ++ what ++ " PEM"
  | noPrivateKey => "no private key found in client key PEM"
  | invalidAuthority found => "invalid CA certificate: " ++ found.message
  | unusableKey found => "unable to load client key: " ++ found.message
  | keyMismatch found => "client certificate and key do not match: " ++ found.message
  | certificateWithoutKey => "client certificate given without a client key"
  | keyWithoutCertificate => "client key given without a client certificate"
  | invalidSettings problem => "invalid settings: " ++ problem
  | missingHost setting =>
      "missing ScyllaDB host: set `host` or the " ++ setting ++ " environment variable"
  | zeroTimeout => "connect_timeout_secs must be greater than zero"
  | settingNotAddress written => "dns_nameserver " ++ quoted written ++ " is not an IP address"
  | missingUsername => "auth_login_userpass requires a username"
  | resolverWithoutProxy => "DNS through the proxy requires a proxy"

/-- The cause in diagnostics. -/
def shown : Cause → String
  | fault found => found.shown
  | timedOut => "TimedOut"
  | candidatesExhausted candidates failures =>
      record "CandidatesExhausted"
        [("candidates", sequence (candidates.map quoted)),
          ("failures",
            sequence (failures.map fun failure =>
              tagged "" [quoted failure.1, quoted failure.2]))]
  | noSuchHost host => tagged "NoSuchHost" [quoted host]
  | malformedResponse problem => tagged "MalformedResponse" [quoted problem]
  | tunnelRejected destination status =>
      record "TunnelRejected" [("destination", quoted destination), ("status", quoted status)]
  | socksRejected destination code reason =>
      record "SocksRejected"
        [("destination", quoted destination), ("code", toString code.toNat),
          ("reason", quoted reason)]
  | alreadyEncrypted address => tagged "AlreadyEncrypted" [quoted address]
  | cause => quoted cause.message

end Cause

/-- An error of a dial. -/
inductive Error
  /-- Nothing but the kind is known. -/
  | bare (kind : ErrorKind)
  | because (kind : ErrorKind) (cause : Cause)
  /-- The cause is an error itself. -/
  | around (kind : ErrorKind) (inner : Error)
  deriving DecidableEq, Repr

namespace Error
open Text

def kind : Error → ErrorKind
  | bare kind | because kind _ | around kind _ => kind

def isRetryable (error : Error) : Bool := error.kind.isRetryable

def message : Error → String
  | bare kind => kind.description
  | because kind cause => kind.description ++ ": " ++ cause.message
  | around kind inner => kind.description ++ ": " ++ inner.message

/-- The message of the error, then that of its cause, down to the last one. -/
def chain : Error → List String
  | bare kind => [message (bare kind)]
  | because kind cause => [message (because kind cause), cause.message]
  | around kind inner => message (around kind inner) :: inner.chain

def shownAs (kind : ErrorKind) (source : Option String) : String :=
  record "cqltunnel_client::Error"
    (("kind", kind.name) :: (source.map fun text => ("source", text)).toList)

/-- The error in diagnostics. -/
def shown : Error → String
  | bare kind => shownAs kind none
  | because kind cause => shownAs kind (some cause.shown)
  | around kind inner => shownAs kind (some inner.shown)

def config (cause : Cause) : Error := .because .config cause
def connect (cause : Cause) : Error := .because .connect cause
def protocol (cause : Cause) : Error := .because .protocol cause
def tls (cause : Cause) : Error := .because .tls cause
def resolve (cause : Cause) : Error := .because .resolve cause

/-- The time budget of a dial is used up. -/
def timeout : Error := .because .timeout .timedOut

instance : Inhabited Error := ⟨timeout⟩

/-- A fault of a socket: one of time is a timeout, any other means that the peer is out of reach. -/
def ofFault (fault : Fault) : Error :=
  if fault.isTimeout then .because .timeout (.fault fault) else connect (.fault fault)

/-- A fault after the peer has accepted the connection: it breaks the protocol by hanging up. -/
def ofHandshakeFault (fault : Fault) : Error :=
  if fault.kind = .unexpectedEnd then protocol (.fault fault) else ofFault fault

/-- The name does not exist, as opposed to a lookup that failed. -/
def isNoSuchHost : Error → Bool
  | because _ (.noSuchHost _) => true
  | _ => false

end Error

end ProxyDial
