import ProxyAutoConfig.Main
import ProxyAutoConfig.Proofs.Outcome
import ProxyAutoConfig.Proofs.Proxy.Decision
import ProxyAutoConfig.Proofs.Proxy.Key
import ProxyAutoConfig.Proofs.Proxy.Association
import ProxyAutoConfig.Proofs.Proxy.Confinement
import ProxyAutoConfig.Proofs.Text.Ascii
import ProxyAutoConfig.Proofs.Text.Percent
import ProxyAutoConfig.Proofs.Text.Units
import ProxyAutoConfig.Proofs.Proxy.Embedding
import ProxyAutoConfig.Proofs.Idna.Plain
import ProxyAutoConfig.Proofs.Idna.Ascii
import ProxyAutoConfig.Proofs.Net.Ipv4
import ProxyAutoConfig.Proofs.Net.Ipv6
import ProxyAutoConfig.Proofs.Url.Host
import ProxyAutoConfig.Proofs.Url.Authority
import ProxyAutoConfig.Proofs.Proxy.Place
import ProxyAutoConfig.Proofs.Proxy.Mode
import ProxyAutoConfig.Proofs.Proxy.Directive
import ProxyAutoConfig.Proofs.Proxy.Delivery
import ProxyAutoConfig.Proofs.Proxy.Schemes
import ProxyAutoConfig.Proofs.Proxy.Synonyms
import ProxyAutoConfig.Proofs.Idna.Sign
import ProxyAutoConfig.Proofs.Url.Sign
import ProxyAutoConfig.Proofs.Url.Spelling
import ProxyAutoConfig.Proofs.Url.Login
import ProxyAutoConfig.Proofs.Url.Reading
import ProxyAutoConfig.Proofs.Url.Path
import ProxyAutoConfig.Proofs.Url.Parts
import ProxyAutoConfig.Proofs.Url.Tail
import ProxyAutoConfig.Proofs.Url.Written
import ProxyAutoConfig.Proofs.Url.Reread
import ProxyAutoConfig.Proofs.Proxy.RoundTrip
import ProxyAutoConfig.Proofs.Redaction
import ProxyAutoConfig.Proofs.Source.Download
import ProxyAutoConfig.Proofs.Source.Disclosure
import ProxyAutoConfig.Proofs.TwoRuns
import ProxyAutoConfig.Proofs.Secrecy.Password
import ProxyAutoConfig.Proofs.Secrecy.Address
import ProxyAutoConfig.Proofs.Secrecy.Table
import ProxyAutoConfig.Proofs.Secrecy.Load
import ProxyAutoConfig.Proofs.Session.Run
import ProxyAutoConfig.Proofs.Secrecy.Specifier
import ProxyAutoConfig.Proofs.Secrecy.Run
import ProxyAutoConfig.Proofs.Session.Lookup
import ProxyAutoConfig.Proofs.Session.Steps
import ProxyAutoConfig.Proofs.Script.Touch
import ProxyAutoConfig.Proofs.Script.Discipline.Basic
import ProxyAutoConfig.Proofs.Script.Discipline.Heap
import ProxyAutoConfig.Proofs.Script.Discipline.Methods
import ProxyAutoConfig.Proofs.Script.Discipline.Evaluate
import ProxyAutoConfig.Proofs.Script.Discipline.Calls
import ProxyAutoConfig.Proofs.Script.Levels
import ProxyAutoConfig.Proofs.Script.Names
import ProxyAutoConfig.Proofs.Script.Standing
import ProxyAutoConfig.Proofs.Script.Moment
import ProxyAutoConfig.Proofs.Script.Declarations
import ProxyAutoConfig.Proofs.Engine
import ProxyAutoConfig.Proofs.Source.Obtain
import ProxyAutoConfig.Proofs.Native.Glob
import ProxyAutoConfig.Proofs.Native.Serving
import ProxyAutoConfig.Proofs.Proxy.Kinds
import ProxyAutoConfig.Proofs.Session.Opening
import ProxyAutoConfig.Proofs.Session.Requests
import ProxyAutoConfig.Proofs.CommandLine
import ProxyAutoConfig.Proofs.Secrecy.Target
import ProxyAutoConfig.Proofs.Secrecy.Decision
import ProxyAutoConfig.Proofs.Proxy.OwnScheme
import ProxyAutoConfig.Proofs.Session.Arguments
import ProxyAutoConfig.Proofs.Script.Activation
import ProxyAutoConfig.Proofs.Script.Methods
import ProxyAutoConfig.Proofs.Script.Contained
import ProxyAutoConfig.Proofs.Script.Reads
import ProxyAutoConfig.Proofs.Script.Numbers
import ProxyAutoConfig.Proofs.Net.Network
import ProxyAutoConfig.Proofs.Native.Dotted
import ProxyAutoConfig.Proofs.Native.Furnished
import ProxyAutoConfig.Proofs.Native.Subnet
import ProxyAutoConfig.Proofs.Native.Membership
import ProxyAutoConfig.Proofs.Net.LeadingBits
import ProxyAutoConfig.Proofs.Net.Address
import ProxyAutoConfig.Proofs.Text.Decimal
import ProxyAutoConfig.Proofs.Native.Networks
import ProxyAutoConfig.Proofs.Native.Times
import ProxyAutoConfig.Proofs.Native.Calendar
import ProxyAutoConfig.Proofs.Native.Dates
import ProxyAutoConfig.Proofs.Native.Terms
import ProxyAutoConfig.Proofs.Native.Ranges
import ProxyAutoConfig.Proofs.Text.Base64
import ProxyAutoConfig.Proofs.Credential
import ProxyAutoConfig.Proofs.Source.FileUri
import ProxyAutoConfig.Proofs.Native.Fault
import ProxyAutoConfig.Proofs.Native.HostFunction
import ProxyAutoConfig.Proofs.Script.GlobalObject
import ProxyAutoConfig.Proofs.Native.Registration
import ProxyAutoConfig.Proofs.Native.Resolver
import ProxyAutoConfig.Proofs.Redaction.Span
import ProxyAutoConfig.Proofs.Settings
import ProxyAutoConfig.Proofs.Script.TextMethods
import ProxyAutoConfig.Proofs.Native.HostNames
