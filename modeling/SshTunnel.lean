import SshTunnel.Text.Blank
import SshTunnel.Text.Lines
import SshTunnel.Text.Lower
import SshTunnel.Text.Quoted
import SshTunnel.Text.Numeral
import SshTunnel.Text.Utf8
import SshTunnel.Text.Glob
import SshTunnel.Datum
import SshTunnel.Decimal.Fixed
import SshTunnel.Base64
import SshTunnel.Hash.Hmac
import SshTunnel.Ed25519
import SshTunnel.Regex.Parse
import SshTunnel.Regex.Search
import SshTunnel.Files.Expand
import SshTunnel.Files.Change
import SshTunnel.HostConfig.Entry
import SshTunnel.Key.Library
import SshTunnel.OpenSsh.Private
import SshTunnel.Failure
import SshTunnel.Logging
import SshTunnel.KnownHosts.Store
import SshTunnel.Log.Sink
import SshTunnel.Resolve.Resolver
import SshTunnel.Resolve.Session
import SshTunnel.Proofs.KnownHosts.Trust
import SshTunnel.Proofs.HostConfig.Lookup
import SshTunnel.Proofs.HostConfig.InPlace
import SshTunnel.Proofs.Resolve.Acceptance
import SshTunnel.Proofs.Resolve.Taxonomy
import SshTunnel.Proofs.KnownHosts.Loading
import SshTunnel.Proofs.Base64
import SshTunnel.Proofs.HostConfig.Home
import SshTunnel.Proofs.KnownHosts.KeyLine
import SshTunnel.Proofs.KnownHosts.Verdict
import SshTunnel.Proofs.KnownHosts.Written
import SshTunnel.Proofs.Resolve.Home
import SshTunnel.Proofs.KnownHosts.Statements
import SshTunnel.Proofs.HostConfig.Line
import SshTunnel.Proofs.HostConfig.Sheet
import SshTunnel.Proofs.Resolve.Outcome
import SshTunnel.Proofs.HostConfig.Depth
import SshTunnel.Proofs.KnownHosts.Revocation
import SshTunnel.Proofs.Text.Wildcard
import SshTunnel.Proofs.KnownHosts.Wildcard
import SshTunnel.Proofs.Named
import SshTunnel.Proofs.Resolve.Batch
import SshTunnel.Proofs.Resolve.Session
import SshTunnel.Proofs.KnownHosts.Hashed
import SshTunnel.Proofs.KnownHosts.HashedStore
import SshTunnel.Proofs.KnownHosts.KeyType
import SshTunnel.Proofs.KnownHosts.Client
import SshTunnel.Proofs.HostConfig.Recorded
import SshTunnel.Proofs.HostConfig.QuotedMark
import SshTunnel.Proofs.HostConfig.Unseen
import SshTunnel.Proofs.HostConfig.Irrelevant
import SshTunnel.Proofs.Files.Described
import SshTunnel.Proofs.HostConfig.LiteralInclude
import SshTunnel.Proofs.Resolve.Validation
import SshTunnel.Proofs.Path.Tilde
import SshTunnel.Proofs.Auth.Signers
import SshTunnel.Proofs.Resolve.Wrapped
import SshTunnel.Proofs.KnownHosts.Negation
import SshTunnel.Proofs.Resolve.Precedence
import SshTunnel.Proofs.Log.Streams
import SshTunnel.Proofs.Report.Record
import SshTunnel.Proofs.Log.Output
import SshTunnel.Proofs.HostConfig.Arguments
import SshTunnel.Proofs.Key.Fingerprint
