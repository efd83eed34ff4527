import MessageTemplate.Main
import MessageTemplate.Cache.Run
import MessageTemplate.Template.Delivery
import MessageTemplate.Proofs.RoundTrip
import MessageTemplate.Proofs.Recognition
import MessageTemplate.Proofs.Cutting
import MessageTemplate.Proofs.Identity
import MessageTemplate.Proofs.Epoch
import MessageTemplate.Proofs.Transparency
import MessageTemplate.Proofs.Accounting
import MessageTemplate.Proofs.Delivery
import MessageTemplate.Proofs.TextDelivery
import MessageTemplate.Proofs.Leftover
import MessageTemplate.Proofs.Sources
import MessageTemplate.Proofs.Columns
import MessageTemplate.Json.Reader
import MessageTemplate.Proofs.Answer
import MessageTemplate.Proofs.Description
import MessageTemplate.Proofs.Formats
import MessageTemplate.Proofs.FixedPoint
import MessageTemplate.Number.Whole
import MessageTemplate.Proofs.WholeNumbers
import MessageTemplate.Proofs.RoundingRange
import MessageTemplate.Proofs.NearestNumber
import MessageTemplate.Proofs.Integers
import MessageTemplate.Proofs.ReadingBack
import MessageTemplate.Proofs.Synonyms
import MessageTemplate.Proofs.Separator
import MessageTemplate.Proofs.Quoting
import MessageTemplate.Proofs.Unbound
import MessageTemplate.Proofs.Views
import MessageTemplate.Proofs.CommandLine
import MessageTemplate.Proofs.NumberForm
import MessageTemplate.Proofs.Classification
import MessageTemplate.Proofs.Progress
import MessageTemplate.Proofs.SettingsForm
import MessageTemplate.Proofs.Limits
