import AltBit.Handler.Rule
import AltBit.Link.Any
import AltBit.Link.Correspondent
import AltBit.Command.Arguments
import AltBit.Command.Timeout
import AltBit.Command.Serve
import AltBit.Command.Send
import AltBit.Command.Version
import AltBit.Socket.Network
import AltBit.Main
import AltBit.Proofs.Awaiting
import AltBit.Proofs.Triple
import AltBit.Proofs.Polling
import AltBit.Proofs.Opening
import AltBit.Proofs.Operation
import AltBit.Proofs.Alternation
import AltBit.Proofs.Carrier
import AltBit.Proofs.Answering
import AltBit.Proofs.Carrier.Peer
import AltBit.Proofs.Remote
import AltBit.Proofs.Lossy
import AltBit.Proofs.Lossy.Peer
import AltBit.Proofs.InStep
import AltBit.Proofs.Sending
import AltBit.Proofs.Conversation
import AltBit.Proofs.Counting
import AltBit.Proofs.Courtesy
import AltBit.Proofs.Draining
import AltBit.Proofs.ExactlyOnce
import AltBit.Proofs.Faults
import AltBit.Proofs.Separation
import AltBit.Proofs.Sessions
import AltBit.Proofs.Reassembly
import AltBit.Proofs.Calm
import AltBit.Proofs.Streaming
import AltBit.Proofs.Matching
import AltBit.Proofs.Replies
import AltBit.Proofs.Resynchronisation
import AltBit.Proofs.Succession
import AltBit.Proofs.Alignment
import AltBit.Proofs.Serving
import AltBit.Proofs.Echoes
import AltBit.Proofs.Repetition
import AltBit.Proofs.Transmission
import AltBit.Proofs.Emission
import AltBit.Proofs.Readiness
import AltBit.Proofs.LateReplies
import AltBit.Proofs.Framing
import AltBit.Proofs.Hexadecimal
import AltBit.Proofs.Answered
import AltBit.Proofs.Ownership
import AltBit.Proofs.Shares
import AltBit.Proofs.Trimming
import AltBit.Proofs.Retyping
import AltBit.Proofs.Timeouts
import AltBit.Proofs.Preview
import AltBit.Proofs.Horizon
import AltBit.Proofs.Queueing
