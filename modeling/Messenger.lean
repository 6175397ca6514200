import Messenger.Address.Basic
import Messenger.Backoff
import Messenger.Credential
import Messenger.Decimal.Shortest
import Messenger.Dispatch.Board
import Messenger.Domain.Name
import Messenger.Envelope.Identifier
import Messenger.Envelope.Reader
import Messenger.Envelope.Writer
import Messenger.Error
import Messenger.Heartbeat
import Messenger.Json.Reader
import Messenger.Kind
import Messenger.Lab.Operation
import Messenger.Lab.Run
import Messenger.Main
import Messenger.Proofs.Address.Form
import Messenger.Proofs.Backoff
import Messenger.Proofs.Dispatch.History
import Messenger.Proofs.Dispatch.Routing
import Messenger.Proofs.Envelope.Codec
import Messenger.Proofs.Json.Reading
import Messenger.Proofs.Pacing
import Messenger.Proofs.Publisher
import Messenger.Proofs.Queue.Reload
import Messenger.Proofs.Queue.Unread
import Messenger.Proofs.Session.Alike
import Messenger.Proofs.Session.Answers
import Messenger.Proofs.Session.Authoring
import Messenger.Proofs.Session.Calling
import Messenger.Proofs.Session.Conservation
import Messenger.Proofs.Session.Copies
import Messenger.Proofs.Session.Credentials
import Messenger.Proofs.Session.Discipline
import Messenger.Proofs.Session.History
import Messenger.Proofs.Session.Inbound
import Messenger.Proofs.Session.Liveness
import Messenger.Proofs.Session.Logout
import Messenger.Proofs.Session.Outbox
import Messenger.Proofs.Session.Pieces
import Messenger.Proofs.Session.Rejoin
import Messenger.Proofs.Session.Restart
import Messenger.Proofs.Session.RoomAgreement
import Messenger.Proofs.Session.Schedule
import Messenger.Proofs.Session.Silence
import Messenger.Proofs.Session.Transitions
import Messenger.Proofs.Session.WireOrder
import Messenger.Proofs.Store.Apart
import Messenger.Proofs.Store.Honest
import Messenger.Proofs.Store.Naming
import Messenger.Proofs.Store.Refused
import Messenger.Proofs.Terminal.Unreached
import Messenger.Proofs.Transport.Peer
import Messenger.Publisher
import Messenger.Queue.Offline
import Messenger.Queue.Pending
import Messenger.Session.Basic
import Messenger.Session.Step
import Messenger.Settings.Basic
import Messenger.Settings.Reader
import Messenger.Store.Files
import Messenger.Store.Memory
import Messenger.Store.Tree
import Messenger.Terminal.Basic
import Messenger.Terminal.Line
import Messenger.Terminal.Sitting
import Messenger.Text.Blank
import Messenger.Text.Numeral
import Messenger.Timestamp.Reader
import Messenger.Timestamp.Writer
import Messenger.Transport.Connector
import Messenger.Transport.Frame
import Messenger.Yaml.Document
import Messenger.Yaml.Event
import Messenger.Yaml.Lexer
import Messenger.Yaml.Scalar
import Messenger.Yaml.Token
