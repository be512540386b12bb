import ByteStream.Audit
import ByteStream.Http.Answer
import ByteStream.Http.Backend
import ByteStream.Memory
import ByteStream.Probe
import ByteStream.Proofs.Address
import ByteStream.Proofs.ConnectOptions.Building
import ByteStream.Proofs.Entries.History
import ByteStream.Proofs.Entries.OrderedMaps
import ByteStream.Proofs.Http.Capabilities
import ByteStream.Proofs.Http.Cursor
import ByteStream.Proofs.Http.HeaderMap
import ByteStream.Proofs.Http.IcyTags
import ByteStream.Proofs.Http.Observing
import ByteStream.Proofs.Http.Radio
import ByteStream.Proofs.Http.Referrer
import ByteStream.Proofs.Http.Requests
import ByteStream.Proofs.Http.Resuming
import ByteStream.Proofs.Http.Seeking
import ByteStream.Proofs.Http.Settings
import ByteStream.Proofs.Http.Transfer
import ByteStream.Proofs.Icy.Bounds
import ByteStream.Proofs.Icy.Encoding
import ByteStream.Proofs.Icy.Polling
import ByteStream.Proofs.Icy.Title
import ByteStream.Proofs.Session.Flushing
import ByteStream.Proofs.Session.Independence
import ByteStream.Proofs.Session.Ownership
import ByteStream.Proofs.Stream.AfterCancellation
import ByteStream.Proofs.Stream.Idle
import ByteStream.Proofs.Stream.Naming
import ByteStream.Proofs.Stream.Queries
import ByteStream.Proofs.Stream.ReadToEnd
import ByteStream.Proofs.Stream.WriteAll
import ByteStream.Proofs.Tags.Equality
import ByteStream.Scripted
import ByteStream.Session
