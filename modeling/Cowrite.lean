import Cowrite.Buffer
import Cowrite.Crypto.Aes
import Cowrite.Crypto.Gcm
import Cowrite.Crypto.Sha256
import Cowrite.Directory
import Cowrite.Form.Basic
import Cowrite.Form.Session
import Cowrite.Form.Text
import Cowrite.Form.Transport
import Cowrite.Invitation
import Cowrite.Office
import Cowrite.Proofs.Buffer.Notices
import Cowrite.Proofs.Buffer.Ranges
import Cowrite.Proofs.Buffer.Sheet
import Cowrite.Proofs.Buffer.Uses
import Cowrite.Proofs.Invitation
import Cowrite.Proofs.Replica.Circle
import Cowrite.Proofs.Replica.Editing
import Cowrite.Proofs.Replica.Exchange
import Cowrite.Proofs.Replica.Grown
import Cowrite.Proofs.Replica.Hearing
import Cowrite.Proofs.Replica.History
import Cowrite.Proofs.Replica.Merging
import Cowrite.Proofs.Replica.News
import Cowrite.Proofs.Replica.Own
import Cowrite.Proofs.Replica.Path
import Cowrite.Proofs.Replica.Sequence
import Cowrite.Proofs.Replica.Sound
import Cowrite.Proofs.Replica.Splicing
import Cowrite.Proofs.Replica.Trail
import Cowrite.Proofs.Replica.Version
import Cowrite.Proofs.Replica.Visible
import Cowrite.Proofs.Session.Agenda
import Cowrite.Proofs.Session.Aside
import Cowrite.Proofs.Session.Backoff
import Cowrite.Proofs.Session.Binding
import Cowrite.Proofs.Session.Bookkeeping
import Cowrite.Proofs.Session.Bound
import Cowrite.Proofs.Session.Call
import Cowrite.Proofs.Session.Calls
import Cowrite.Proofs.Session.Carries
import Cowrite.Proofs.Session.Clock
import Cowrite.Proofs.Session.Codes
import Cowrite.Proofs.Session.Convergence
import Cowrite.Proofs.Session.Course
import Cowrite.Proofs.Session.Discipline
import Cowrite.Proofs.Session.Drafts
import Cowrite.Proofs.Session.Echo
import Cowrite.Proofs.Session.Effects
import Cowrite.Proofs.Session.Events
import Cowrite.Proofs.Session.Expiry
import Cowrite.Proofs.Session.Failing
import Cowrite.Proofs.Session.FirstState
import Cowrite.Proofs.Session.Flushing
import Cowrite.Proofs.Session.Gathering
import Cowrite.Proofs.Session.Guest
import Cowrite.Proofs.Session.Hosting
import Cowrite.Proofs.Session.InStep
import Cowrite.Proofs.Session.Isolation
import Cowrite.Proofs.Session.Ledger
import Cowrite.Proofs.Session.Line
import Cowrite.Proofs.Session.Load
import Cowrite.Proofs.Session.Moves
import Cowrite.Proofs.Session.Observing
import Cowrite.Proofs.Session.Opening
import Cowrite.Proofs.Session.Outdated
import Cowrite.Proofs.Session.Outline
import Cowrite.Proofs.Session.Overdue
import Cowrite.Proofs.Session.Patience
import Cowrite.Proofs.Session.Polling
import Cowrite.Proofs.Session.Quiescence
import Cowrite.Proofs.Session.Quiet
import Cowrite.Proofs.Session.Reckoning
import Cowrite.Proofs.Session.Redialing
import Cowrite.Proofs.Session.Refusal
import Cowrite.Proofs.Session.Removal
import Cowrite.Proofs.Session.Repairing
import Cowrite.Proofs.Session.Replaced
import Cowrite.Proofs.Session.Replaying
import Cowrite.Proofs.Session.Resync
import Cowrite.Proofs.Session.Retries
import Cowrite.Proofs.Session.Rounds
import Cowrite.Proofs.Session.Scene
import Cowrite.Proofs.Session.Seeding
import Cowrite.Proofs.Session.Sending
import Cowrite.Proofs.Session.Showing
import Cowrite.Proofs.Session.Tandem
import Cowrite.Proofs.Session.Tending
import Cowrite.Proofs.Session.Typing
import Cowrite.Proofs.Session.Unstuck
import Cowrite.Proofs.Session.Waiting
import Cowrite.Proofs.Session.Writing
import Cowrite.Proofs.SessionKey
import Cowrite.Proofs.Text.Base64
import Cowrite.Proofs.Text.Cut
import Cowrite.Proofs.Text.Delta
import Cowrite.Proofs.Text.Lines
import Cowrite.Proofs.Text.Places
import Cowrite.Proofs.Text.Positions
import Cowrite.Proofs.Text.Rows
import Cowrite.Proofs.Text.Scan
import Cowrite.Proofs.Text.Span
import Cowrite.Proofs.Text.Splitting
import Cowrite.Proofs.Transport.Blind
import Cowrite.Proofs.Transport.Booked
import Cowrite.Proofs.Transport.Delivery
import Cowrite.Proofs.Transport.Dialed
import Cowrite.Proofs.Transport.Elsewhere
import Cowrite.Proofs.Transport.Framing
import Cowrite.Proofs.Transport.Housed
import Cowrite.Proofs.Transport.Logged
import Cowrite.Proofs.Transport.Mailbox
import Cowrite.Proofs.Transport.Modest
import Cowrite.Proofs.Transport.Passing
import Cowrite.Proofs.Transport.Recorded
import Cowrite.Proofs.Transport.Relay
import Cowrite.Proofs.Transport.Sealing
import Cowrite.Proofs.Wire.Message
import Cowrite.Proofs.Wire.Reading
import Cowrite.Proofs.Wire.Streaming
import Cowrite.Replica.Basic
import Cowrite.Replica.Path
import Cowrite.Replica.Sequence
import Cowrite.Replica.Version
import Cowrite.Session.Agenda
import Cowrite.Session.Basic
import Cowrite.Session.Binding
import Cowrite.Session.Connection
import Cowrite.Session.Desk
import Cowrite.Session.Error
import Cowrite.Session.Outbox
import Cowrite.Session.Settings
import Cowrite.Session.Status
import Cowrite.SessionKey
import Cowrite.Shelf
import Cowrite.Telemetry
import Cowrite.Text.Basic
import Cowrite.Text.Blank
import Cowrite.Text.Delta
import Cowrite.Text.Lines
import Cowrite.Text.Span
import Cowrite.Text.Spelling
import Cowrite.Token
import Cowrite.Transport.Basic
import Cowrite.Transport.Class
import Cowrite.Transport.Framing
import Cowrite.Transport.Mailbox
import Cowrite.Transport.Relay
import Cowrite.Transport.Scripted
import Cowrite.Transport.Socket
import Cowrite.Value.Basic
import Cowrite.Value.Reader
import Cowrite.Value.Writer
import Cowrite.Wire.Field
import Cowrite.Wire.Message
import Cowrite.Wire.Varint
