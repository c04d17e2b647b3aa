import OneShot.Main
import OneShot.Sample.Functions
import OneShot.Proofs.BeanStore.History
import OneShot.Proofs.BeanStore.Lifecycle
import OneShot.Proofs.Invocation.ExitCall
import OneShot.Proofs.Invocation.Output
import OneShot.Proofs.Config
import OneShot.Proofs.Command.ExitProtocol
import OneShot.Proofs.BeanStore.Startup
import OneShot.Proofs.Runner.Making
import OneShot.Proofs.Runner.Closing
import OneShot.Proofs.Arguments
import OneShot.Proofs.Invocation.Transport
import OneShot.Proofs.Invocation.Composition
import OneShot.Proofs.Codec.Text
import OneShot.Proofs.MediaType
import OneShot.Proofs.Arguments.Bytes
import OneShot.Proofs.Arguments.Grammar
import OneShot.Proofs.Arguments.Accepted
import OneShot.Proofs.Invocation.DebugFlag
import OneShot.Proofs.Command.DebugFlag
import OneShot.Proofs.Json.Lines
import OneShot.Proofs.Config.Saved
import OneShot.Proofs.Command.Echo
import OneShot.Proofs.Command.Greet
import OneShot.Proofs.Command.Increment
import OneShot.Proofs.Decoder.Structured
import OneShot.Proofs.Config.Overlay
import OneShot.Proofs.MediaType.Grammar
import OneShot.Proofs.Text.ByteOrder
import OneShot.Proofs.Negotiation
import OneShot.Proofs.Conversion
import OneShot.Proofs.Invocation.Framing
import OneShot.Proofs.Diagnostic
