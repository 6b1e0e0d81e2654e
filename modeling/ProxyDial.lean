import ProxyDial.Address.Ip
import ProxyDial.Address.Socket
import ProxyDial.Clock
import ProxyDial.Cluster.Call
import ProxyDial.Cluster.Config
import ProxyDial.Cluster.ContactPoint
import ProxyDial.Cluster.Handle
import ProxyDial.Cluster.InPlace
import ProxyDial.Cluster.Setup
import ProxyDial.Crypto.Edwards
import ProxyDial.Crypto.Modular
import ProxyDial.Crypto.Rsa
import ProxyDial.Crypto.Sha2
import ProxyDial.Crypto.Weierstrass
import ProxyDial.Decimal.Shortest
import ProxyDial.Der
import ProxyDial.Destination
import ProxyDial.Destination.Authority
import ProxyDial.Dial.Candidates
import ProxyDial.Dial.Direct
import ProxyDial.Dial.Host
import ProxyDial.Dial.Options
import ProxyDial.Dial.Proxied
import ProxyDial.Dial.Resolver
import ProxyDial.Dns.Lookup
import ProxyDial.Dns.Message
import ProxyDial.Dns.Name
import ProxyDial.Error
import ProxyDial.Fault
import ProxyDial.Http.ResponseHead
import ProxyDial.Http.Tunnel
import ProxyDial.Idna.HostName
import ProxyDial.Idna.Label
import ProxyDial.Idna.MappingTable
import ProxyDial.Idna.Punycode
import ProxyDial.Json.Literal
import ProxyDial.Json.Number
import ProxyDial.Json.Record
import ProxyDial.Json.Skip
import ProxyDial.Json.Stop
import ProxyDial.Net.Connect
import ProxyDial.Net.Peer
import ProxyDial.Net.Stream
import ProxyDial.Net.World
import ProxyDial.Proofs.Address.Octets
import ProxyDial.Proofs.Cluster.Atomic
import ProxyDial.Proofs.Cluster.Configured
import ProxyDial.Proofs.Cluster.Contacts
import ProxyDial.Proofs.Cluster.Copies
import ProxyDial.Proofs.Cluster.InPlace
import ProxyDial.Proofs.Cluster.Overflow
import ProxyDial.Proofs.Cluster.Protection
import ProxyDial.Proofs.Cluster.Reachable
import ProxyDial.Proofs.Cluster.Setup
import ProxyDial.Proofs.Cluster.Shape
import ProxyDial.Proofs.Cluster.Step
import ProxyDial.Proofs.Destination.Reread
import ProxyDial.Proofs.Destination.Scan
import ProxyDial.Proofs.Dial.Budget
import ProxyDial.Proofs.Dial.Deadline
import ProxyDial.Proofs.Dial.Elapsed
import ProxyDial.Proofs.Dial.Grows
import ProxyDial.Proofs.Dial.Handshakes
import ProxyDial.Proofs.Dial.InOrder
import ProxyDial.Proofs.Dial.Installed
import ProxyDial.Proofs.Dial.Opened
import ProxyDial.Proofs.Dial.Outcome
import ProxyDial.Proofs.Dial.Platform
import ProxyDial.Proofs.Dial.Protected
import ProxyDial.Proofs.Dial.ServerName
import ProxyDial.Proofs.Dial.Sockets
import ProxyDial.Proofs.Dial.Truncated
import ProxyDial.Proofs.Dial.TwoPaths
import ProxyDial.Proofs.Dial.Unasked
import ProxyDial.Proofs.Dial.Winner
import ProxyDial.Proofs.Dns.Accepted
import ProxyDial.Proofs.Dns.Exchange
import ProxyDial.Proofs.Dns.Framed
import ProxyDial.Proofs.Dns.Lookup
import ProxyDial.Proofs.Dns.Query
import ProxyDial.Proofs.Dns.Truncated
import ProxyDial.Proofs.Http.Fragments
import ProxyDial.Proofs.Http.HeadEnd
import ProxyDial.Proofs.Http.Prefix
import ProxyDial.Proofs.Http.Request
import ProxyDial.Proofs.Http.Transparency
import ProxyDial.Proofs.Http.Truncated
import ProxyDial.Proofs.Net.Confined
import ProxyDial.Proofs.Net.Ending
import ProxyDial.Proofs.Net.HostKept
import ProxyDial.Proofs.Net.Kept
import ProxyDial.Proofs.Net.Newest
import ProxyDial.Proofs.Net.Script
import ProxyDial.Proofs.Net.Talk
import ProxyDial.Proofs.Net.Timed
import ProxyDial.Proofs.Net.Tunnel
import ProxyDial.Proofs.Net.TunnelEnding
import ProxyDial.Proofs.Net.Unasked
import ProxyDial.Proofs.Net.Unwatched
import ProxyDial.Proofs.Net.Uses
import ProxyDial.Proofs.Proxy.Password
import ProxyDial.Proofs.Proxy.Resolution
import ProxyDial.Proofs.Proxy.Shape
import ProxyDial.Proofs.Socks.Encoding
import ProxyDial.Proofs.Socks.Exchange
import ProxyDial.Proofs.Socks.Replies
import ProxyDial.Proofs.Socks.Requests
import ProxyDial.Proofs.Socks.Transcript
import ProxyDial.Proofs.Socks.Truncated
import ProxyDial.Proofs.Text.Blank
import ProxyDial.Proofs.Text.Cut
import ProxyDial.Proofs.Text.Digits
import ProxyDial.Proofs.Text.Hex
import ProxyDial.Proofs.Text.Shown
import ProxyDial.Proofs.Text.Visible
import ProxyDial.Proofs.Tls.NameCheck
import ProxyDial.Proofs.Tls.Nameless
import ProxyDial.Proofs.Tls.Refusal
import ProxyDial.Proofs.Url.User
import ProxyDial.Proxy.Environment
import ProxyDial.Proxy.Resolve
import ProxyDial.Proxy.Target
import ProxyDial.Settings
import ProxyDial.Socks.Message
import ProxyDial.Socks.Tunnel
import ProxyDial.Stream.Memory
import ProxyDial.Stream.Rewind
import ProxyDial.Text.Base64
import ProxyDial.Text.Blank
import ProxyDial.Text.Bytes
import ProxyDial.Text.Cut
import ProxyDial.Text.Number
import ProxyDial.Text.Pem
import ProxyDial.Text.Percent
import ProxyDial.Text.Quoted
import ProxyDial.Text.Record
import ProxyDial.Tls.Certificate
import ProxyDial.Tls.Chain
import ProxyDial.Tls.Config
import ProxyDial.Tls.Fault
import ProxyDial.Tls.Handshake
import ProxyDial.Tls.Key
import ProxyDial.Tls.Name
import ProxyDial.Tls.Record
import ProxyDial.Tls.Signature
import ProxyDial.Tls.Verifier
import ProxyDial.Unicode.BidiClass
import ProxyDial.Unicode.CodeRanges
import ProxyDial.Unicode.CombiningClass
import ProxyDial.Unicode.Composed
import ProxyDial.Unicode.Decomposition
import ProxyDial.Unicode.Joining
import ProxyDial.Unicode.Printable
import ProxyDial.Url
import ProxyDial.Proofs.Settings.Secrets
import ProxyDial.Proofs.Destination.Grammar
import ProxyDial.Proofs.Http.HeadTaken
import ProxyDial.Proofs.Http.HeadLimit
import ProxyDial.Proofs.Address.Ipv4
import ProxyDial.Proofs.Address.Ipv6
import ProxyDial.Proofs.Address.Marks
import ProxyDial.Proofs.Cluster.ContactPoint
import ProxyDial.Proofs.Proxy.Authorization
import ProxyDial.Proofs.Cluster.ColonHost
import ProxyDial.Proofs.Proxy.Escaped
import ProxyDial.Proofs.Dns.Question
import ProxyDial.Proofs.Http.StatusLine
import ProxyDial.Proofs.Http.StatusText
import ProxyDial.Proofs.Dial.OneBudget
import ProxyDial.Proofs.Dns.Compressed
import ProxyDial.Proofs.Dns.Response
import ProxyDial.Proofs.Dns.Understood
import ProxyDial.Proofs.Json.Spelled
import ProxyDial.Proofs.Json.Numeral
import ProxyDial.Proofs.Json.Value
import ProxyDial.Proofs.Json.Object
import ProxyDial.Proofs.Settings.FromJson
import ProxyDial.Proofs.Url.Bare
import ProxyDial.Proofs.Url.Numbers
import ProxyDial.Proofs.Address.LastGroup
import ProxyDial.Proofs.Proxy.Verbatim
import ProxyDial.Proofs.Proxy.Literal
import ProxyDial.Proofs.Socks.Versions
import ProxyDial.Proofs.Dial.Offline
import ProxyDial.Proofs.Dial.Expired
import ProxyDial.Proofs.Settings.Hosts
import ProxyDial.Proofs.Tls.Identity
import ProxyDial.Proofs.Stream.Rewind
