import LinkCharset.Benchmark
import LinkCharset.Session.Operation
import LinkCharset.Session.Scripted
import LinkCharset.Options.Json
import LinkCharset.Proofs.Transcode.AppendOnly
import LinkCharset.Proofs.Transcode.Termination
import LinkCharset.Proofs.Transcode.Pacing
import LinkCharset.Proofs.Transcode.Rendering
import LinkCharset.Proofs.Codec.Decoding
import LinkCharset.Proofs.Codec.Encoding
import LinkCharset.Proofs.Encoding.Local
import LinkCharset.Proofs.Encoding.Decoders
import LinkCharset.Proofs.Encoding.Encoders
import LinkCharset.Proofs.Codec.Web
import LinkCharset.Proofs.Codec.Splitting
import LinkCharset.Proofs.Session.Cache
import LinkCharset.Proofs.Session.Identity
import LinkCharset.Proofs.Codec.Alike
import LinkCharset.Proofs.Session.History
import LinkCharset.Proofs.Session.Calls
import LinkCharset.Proofs.Session.Lifetimes
import LinkCharset.Proofs.Encoding.Ending
import LinkCharset.Proofs.Encoding.Grid
import LinkCharset.Proofs.Session.Replacement
import LinkCharset.Proofs.Encoding.Escapes
import LinkCharset.Proofs.Codec.Piecewise
import LinkCharset.Proofs.Encoding.Stream
import LinkCharset.Proofs.Encoding.Utf16
import LinkCharset.Proofs.Encoding.RoundTrip
import LinkCharset.Proofs.Codec.Progress
import LinkCharset.Proofs.Encoding.Chart
import LinkCharset.Proofs.Encoding.SingleByte
import LinkCharset.Proofs.Session.SingleByte
import LinkCharset.Proofs.Encoding.Ascii
import LinkCharset.Proofs.Session.Ascii
import LinkCharset.Proofs.Session.Detection
import LinkCharset.Proofs.Session.LocaleInForce
import LinkCharset.Proofs.Utf8.Validation
import LinkCharset.Proofs.Session.Hosts
import LinkCharset.Proofs.Label
import LinkCharset.Proofs.Locale
import LinkCharset.Proofs.Transcode.Figures
import LinkCharset.Proofs.Transcode.Ledger
import LinkCharset.Proofs.Transcode.Growth
import LinkCharset.Proofs.Encoding.Sparing
import LinkCharset.Proofs.Codec.Growth
import LinkCharset.Proofs.Codec.IllFormed
import LinkCharset.Proofs.Transcode.Block
import LinkCharset.Proofs.Transcode.Words
import LinkCharset.Proofs.Transcode.Position
