import FrameChat.Archive
import FrameChat.Archive.Fault
import FrameChat.Archive.Faults
import FrameChat.Archive.Memory
import FrameChat.Archive.SortedTable
import FrameChat.Archive.Tables
import FrameChat.Bytes
import FrameChat.Calendar
import FrameChat.Canvas
import FrameChat.Canvas.Color
import FrameChat.Channel
import FrameChat.Channel.Delivery
import FrameChat.Cipher.ChaCha20
import FrameChat.Cipher.Poly1305
import FrameChat.Cipher.Seal
import FrameChat.Cipher.Sha256
import FrameChat.CommandLine
import FrameChat.CommandLine.Fault
import FrameChat.CommandLine.Flag
import FrameChat.Directory
import FrameChat.Emoji.File
import FrameChat.Emoji.Table
import FrameChat.Entropy
import FrameChat.Face
import FrameChat.Face.Block
import FrameChat.Face.Box
import FrameChat.Face.Pool
import FrameChat.Frame
import FrameChat.Frame.Format
import FrameChat.Intake
import FrameChat.Intake.Sanitize
import FrameChat.Layout
import FrameChat.Layout.Token
import FrameChat.Mailbox
import FrameChat.Main
import FrameChat.Message
import FrameChat.Message.LengthPrefix
import FrameChat.Message.Record
import FrameChat.Net.Address
import FrameChat.Net.Endpoint
import FrameChat.Operation
import FrameChat.Picture
import FrameChat.Picture.Composition
import FrameChat.Picture.Scene
import FrameChat.Picture.Sheet
import FrameChat.Picture.StatusBar
import FrameChat.Picture.Viewport
import FrameChat.Proofs.Archive.Agreement
import FrameChat.Proofs.Archive.Contents
import FrameChat.Proofs.Archive.Deposits
import FrameChat.Proofs.Archive.Index
import FrameChat.Proofs.Archive.Largest
import FrameChat.Proofs.Archive.LateWrites
import FrameChat.Proofs.Archive.NewestFirst
import FrameChat.Proofs.Archive.Order
import FrameChat.Proofs.Archive.Recency
import FrameChat.Proofs.Archive.Records
import FrameChat.Proofs.Canvas.Areas
import FrameChat.Proofs.Channel.Announcements
import FrameChat.Proofs.Channel.Attendance
import FrameChat.Proofs.Channel.Course
import FrameChat.Proofs.Channel.Display
import FrameChat.Proofs.Channel.Endings
import FrameChat.Proofs.Channel.Ledger
import FrameChat.Proofs.Channel.LeftBehind
import FrameChat.Proofs.Channel.Mailboxes
import FrameChat.Proofs.Channel.Reception
import FrameChat.Proofs.Channel.Standing
import FrameChat.Proofs.Channel.Traffic
import FrameChat.Proofs.Channel.Turns
import FrameChat.Proofs.Channel.Versions
import FrameChat.Proofs.Channel.Viewing
import FrameChat.Proofs.Channel.Visits
import FrameChat.Proofs.Directory.House
import FrameChat.Proofs.Directory.LiveInstances
import FrameChat.Proofs.Directory.Requests
import FrameChat.Proofs.Directory.Standing
import FrameChat.Proofs.Emoji.Longest
import FrameChat.Proofs.Emoji.Records
import FrameChat.Proofs.Face.Loans
import FrameChat.Proofs.Intake.Cooldowns
import FrameChat.Proofs.Intake.Cuts
import FrameChat.Proofs.Intake.Names
import FrameChat.Proofs.Intake.Texts
import FrameChat.Proofs.Layout.Conservation
import FrameChat.Proofs.Layout.Contents
import FrameChat.Proofs.Layout.Links
import FrameChat.Proofs.Layout.Numbering
import FrameChat.Proofs.Layout.Reading
import FrameChat.Proofs.Layout.Spots
import FrameChat.Proofs.Layout.Wrapping
import FrameChat.Proofs.Lookup
import FrameChat.Proofs.Mailbox.Finality
import FrameChat.Proofs.Mailbox.Register
import FrameChat.Proofs.Message.Acceptance
import FrameChat.Proofs.Message.Delimited
import FrameChat.Proofs.Message.Numbers
import FrameChat.Proofs.Message.RoundTrip
import FrameChat.Proofs.Message.Spellings
import FrameChat.Proofs.Net.Address
import FrameChat.Proofs.Operation.Amid
import FrameChat.Proofs.Operation.Clocks
import FrameChat.Proofs.Operation.Upheld
import FrameChat.Proofs.Operation.Whole
import FrameChat.Proofs.Picture.Anchors
import FrameChat.Proofs.Picture.Badges
import FrameChat.Proofs.Picture.Heights
import FrameChat.Proofs.Picture.Lines
import FrameChat.Proofs.RecentSet
import FrameChat.Proofs.Roster
import FrameChat.Proofs.Roster.Enrolment
import FrameChat.Proofs.Service.Account
import FrameChat.Proofs.Service.Additions
import FrameChat.Proofs.Service.Chronicle
import FrameChat.Proofs.Service.Delivering
import FrameChat.Proofs.Service.Footprints
import FrameChat.Proofs.Service.History
import FrameChat.Proofs.Service.Holdings
import FrameChat.Proofs.Service.Joining
import FrameChat.Proofs.Service.Lending
import FrameChat.Proofs.Service.Links
import FrameChat.Proofs.Service.Orderly
import FrameChat.Proofs.Service.Outcomes
import FrameChat.Proofs.Service.Pacing
import FrameChat.Proofs.Service.Presence
import FrameChat.Proofs.Service.Refreshing
import FrameChat.Proofs.Service.Requests
import FrameChat.Proofs.Service.Timers
import FrameChat.Proofs.Service.Vigil
import FrameChat.Proofs.Service.Visits
import FrameChat.Proofs.Service.Writing
import FrameChat.Proofs.SortedTable
import FrameChat.Proofs.Text.LetterCase
import FrameChat.Proofs.Text.Splitting
import FrameChat.Proofs.Text.Utf8Order
import FrameChat.Proofs.Token.Expiry
import FrameChat.Proofs.Token.Issued
import FrameChat.Proofs.Token.Runs
import FrameChat.Proofs.Token.SingleUse
import FrameChat.Proofs.Transit.Accepted
import FrameChat.Proofs.Transit.Instances
import FrameChat.Proofs.Transit.Requests
import FrameChat.Proofs.Transit.Steps
import FrameChat.Proofs.Web.Identities
import FrameChat.Proofs.Web.Redirects
import FrameChat.Proofs.Web.Regular
import FrameChat.Proofs.Web.Requests
import FrameChat.RecentSet
import FrameChat.Roster
import FrameChat.Service
import FrameChat.Service.Drawing
import FrameChat.Service.Rooms
import FrameChat.Service.Streams
import FrameChat.Service.Submission
import FrameChat.Service.Timers
import FrameChat.Startup
import FrameChat.Startup.Files
import FrameChat.Startup.PictureKind
import FrameChat.Text.Base64
import FrameChat.Text.Blank
import FrameChat.Text.CodeRanges
import FrameChat.Text.ControlSequence
import FrameChat.Text.Decimal
import FrameChat.Text.Extending
import FrameChat.Text.Hex
import FrameChat.Text.Percent
import FrameChat.Text.Quoted
import FrameChat.Text.Similarity
import FrameChat.Text.Styled
import FrameChat.Text.Unprintable
import FrameChat.Text.Utf8
import FrameChat.Token.Guard
import FrameChat.Token.Payload
import FrameChat.Web.Exchange
import FrameChat.Web.Form
import FrameChat.Web.Routes
