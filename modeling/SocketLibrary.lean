import SocketLibrary.Interaction.Program
import SocketLibrary.Interaction.Run
import SocketLibrary.Interaction.AnyAnswer
import SocketLibrary.Interaction.Reachable
import SocketLibrary.Interaction.Behaviour
import SocketLibrary.Interaction.Path
import SocketLibrary.Interaction.Session
import SocketLibrary.Interaction.Capability
import SocketLibrary.Interaction.Concurrent
import SocketLibrary.Interaction.Safety
import SocketLibrary.Interaction.Guarantee
import SocketLibrary.Posix.Data
import SocketLibrary.Posix.Calls
import SocketLibrary.Posix.Kernel
import SocketLibrary.Posix.Names
import SocketLibrary.Model.Address
import SocketLibrary.Model.Socket
import SocketLibrary.Model.ConnectionOrientedSocket
import SocketLibrary.Model.TCPSocket
import SocketLibrary.Model.TCPServerSocket
import SocketLibrary.Model.UDPSocket
import SocketLibrary.Model.IPCSocket
import SocketLibrary.Model.DatagramIPCSocket
import SocketLibrary.Stream.Peer
import SocketLibrary.Stream.Receive
import SocketLibrary.Stream.ToDelimiter
import SocketLibrary.Stream.ReceiveAll
import SocketLibrary.Stream.Conservation
import SocketLibrary.Stream.Amounts
import SocketLibrary.Stream.Peeking
import SocketLibrary.Steps.Accept
import SocketLibrary.Steps.IPCServer
import SocketLibrary.Steps.Datagrams
import SocketLibrary.Steps.Binding
import SocketLibrary.Descriptors.Exceptions
import SocketLibrary.Descriptors.Leaks
import SocketLibrary.Descriptors.Containment
import SocketLibrary.Descriptors.Sharing
import SocketLibrary.Descriptors.Connecting
import SocketLibrary.Steps.Streams
import SocketLibrary.Stream.Connection
import SocketLibrary.Files.ServerConstruction
import SocketLibrary.Files.Registry
import SocketLibrary.Files.Bindings
import SocketLibrary.Files.Ownership
import SocketLibrary.Files.Paths
import SocketLibrary.Files.Handing
import SocketLibrary.Files.Agreement
import SocketLibrary.Files.Truncation
import SocketLibrary.Binding.Fields
import SocketLibrary.Binding.Held
import SocketLibrary.Binding.Rebinding
import SocketLibrary.Datagrams.Mailbox
import SocketLibrary.Datagrams.Waiting
import SocketLibrary.Datagrams.Failures
import SocketLibrary.Addresses.Ports
import SocketLibrary.Limits.Timeouts
import SocketLibrary.Limits.Lengths
import SocketLibrary.Limits.Polls
import SocketLibrary.Copies.Behaviour
import SocketLibrary.Steps.Reads
import SocketLibrary.Exchange.Endpoints
import SocketLibrary.Exchange.Transmission
import SocketLibrary.Exchange.Waiting
import SocketLibrary.Exchange.Reader
import SocketLibrary.Exchange.Framing
import SocketLibrary.Datagrams.Delivery
import SocketLibrary.Datagrams.Polling
import SocketLibrary.Protocol.Custody
import SocketLibrary.Protocol.Streams
import SocketLibrary.Protocol.Classes
import SocketLibrary.Protocol.Threads
import SocketLibrary.Handshake.Listeners
import SocketLibrary.Handshake.Queues
import SocketLibrary.Handshake.Waiting
import SocketLibrary.Service.Network
import SocketLibrary.Service.Accounts
import SocketLibrary.Service.Silence
import SocketLibrary.Service.Deeds
import SocketLibrary.Service.Answers
import SocketLibrary.Service.Conservation
