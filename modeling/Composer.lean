import Composer.Main
import Composer.Proofs.MessageInput.Frame
import Composer.Proofs.MessageInput.Exclusive
import Composer.Proofs.MessageInput.SlashMenu
import Composer.Proofs.MessageInput.Merging
import Composer.Proofs.MessageInput.WellFormed
import Composer.Proofs.MessageInput.Conservation
import Composer.Proofs.MessageInput.Sending
import Composer.Proofs.MessageInput.Reporting
import Composer.Proofs.MessageInput.Observing
import Composer.Proofs.SignalBus.Delivery
import Composer.Proofs.SignalBus.Subscriptions
import Composer.Proofs.SignalBus.Ordering
import Composer.Proofs.SignalBus.Draining
import Composer.Proofs.Backend.Calls
import Composer.Proofs.Backend.Events
import Composer.Proofs.Terminal.Typing
import Composer.Proofs.Terminal.PlainLine
import Composer.Proofs.Terminal.PromptWord
import Composer.Proofs.Terminal.Moves
import Composer.Proofs.Terminal.Conversation
import Composer.Proofs.Terminal.Transcript
import Composer.Proofs.Terminal.Authoring
import Composer.Proofs.Terminal.Refusal
import Composer.Proofs.Terminal.Reports
import Composer.Proofs.Terminal.Arrivals
import Composer.Proofs.Terminal.Agreement
import Composer.Proofs.Terminal.Adoption
import Composer.Proofs.MessageInput.Isolation
import Composer.Proofs.Disk.Growth
import Composer.Proofs.Text.Encoding
import Composer.Proofs.Disk.Writing
import Composer.Proofs.Toml.Strings
import Composer.Proofs.Toml.Documents
import Composer.Proofs.Toml.Tables
import Composer.Proofs.Toml.Bounds
import Composer.Proofs.Config.Outcomes
import Composer.Proofs.Config.History
import Composer.Proofs.Config.Coherence
import Composer.Proofs.Config.Override
import Composer.Proofs.Config.RoundTrip
import Composer.Proofs.Backend.Steps
import Composer.Proofs.Backend.Identity
import Composer.Proofs.Backend.Responses
import Composer.Proofs.Backend.ReportedErrors
import Composer.Proofs.Text.Trimming
import Composer.Proofs.Terminal.CommandText
import Composer.Proofs.Text.Reading
import Composer.Proofs.Json.Scalars
import Composer.Proofs.Json.Values
import Composer.Proofs.Json.Decoding
import Composer.Proofs.Json.Preservation
import Composer.Proofs.Text.Base64
import Composer.Proofs.Backend.Bodies
import Composer.Proofs.Time.Calendar
import Composer.Proofs.Time.Writing
import Composer.Proofs.Wire.RoundTrip
import Composer.Proofs.Prompt.Placeholders
import Composer.Proofs.Prompt.Substitution
import Composer.Proofs.MessageInput.Dialogs
import Composer.Proofs.MessageInput.Navigation
import Composer.Proofs.MessageInput.Responding
import Composer.Proofs.MessageInput.Declining
import Composer.Proofs.Artifact.Naming
import Composer.Proofs.MessageInput.HeldPaste
import Composer.Proofs.Backend.Addresses
import Composer.Proofs.Terminal.MainLoop
import Composer.Proofs.Terminal.Termination
import Composer.Proofs.Draft.SlashTokens
import Composer.Proofs.MessageInput.Edits
import Composer.Proofs.Terminal.OpenForm
import Composer.Proofs.Json.Records
import Composer.Proofs.Backend.Uploads
import Composer.Proofs.MessageInput.Batches
import Composer.Proofs.MessageInput.Variables
import Composer.Proofs.MessageInput.Withholding
import Composer.Proofs.Terminal.Answers
import Composer.Proofs.Terminal.PasteCommand
import Composer.Proofs.Terminal.CommandLine
import Composer.Proofs.Text.LineEnds
import Composer.Proofs.Json.LineEnds
import Composer.Proofs.Artifact.LineEnds
import Composer.Proofs.Artifact.Markdown
import Composer.Proofs.Text.Slicing
import Composer.Proofs.Terminal.Completing
import Composer.Proofs.Terminal.Numbered
import Composer.Proofs.Text.Lines
import Composer.Proofs.Artifact.Tables
import Composer.Proofs.MessageInput.Quoting
import Composer.Proofs.MessageInput.LargePaste
import Composer.Proofs.Draft.Dictation
import Composer.Proofs.Draft.Slicing
import Composer.Proofs.Terminal.Slicing
import Composer.Proofs.MessageInput.ViewRequests
