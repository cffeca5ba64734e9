import RemoteSigner.Client.Embedding
import RemoteSigner.Client.Tls
import RemoteSigner.Keys.Certificate
import RemoteSigner.Program.Watchdog
import RemoteSigner.Proofs.Octets.Base64
import RemoteSigner.Proofs.Json.Scalars
import RemoteSigner.Proofs.Json.Loops
import RemoteSigner.Proofs.Json.Readers
import RemoteSigner.Proofs.Wire.Correlation
import RemoteSigner.Proofs.Wire.Messages
import RemoteSigner.Proofs.Wire.RoundTrip
import RemoteSigner.Proofs.Wire.Sessions
import RemoteSigner.Proofs.Wire.Transparency
import RemoteSigner.Proofs.Client.Lifecycle
import RemoteSigner.Proofs.Json.Refusals
import RemoteSigner.Proofs.Client.Identity
import RemoteSigner.Proofs.Wire.Versions
import RemoteSigner.Proofs.Client.Unavailable
import RemoteSigner.Proofs.Client.Buffers
import RemoteSigner.Proofs.Signer.Echo
import RemoteSigner.Proofs.Client.Handshake
import RemoteSigner.Proofs.Client.Agreement
import RemoteSigner.Proofs.Program.Arguments
import RemoteSigner.Proofs.Program.Portions
import RemoteSigner.Proofs.Signer.Salts
import RemoteSigner.Proofs.Wire.Reading
import RemoteSigner.Proofs.Wire.Writing
import RemoteSigner.Proofs.Client.Schemes
import RemoteSigner.Proofs.Config.Failures
import RemoteSigner.Proofs.Config.Slots
import RemoteSigner.Proofs.Config.HomeDirectory
import RemoteSigner.Proofs.Signer.EchoSessions
