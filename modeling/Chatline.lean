import Chatline.Script.Inquiry
import Chatline.Proofs.Match.Derivation
import Chatline.Proofs.Match.Canonical
import Chatline.Proofs.Match.Snapshot
import Chatline.Proofs.Match.Leftover
import Chatline.Proofs.Match.Required
import Chatline.Proofs.Match.Flat
import Chatline.Proofs.Match.Choice
import Chatline.Proofs.Match.Lookup
import Chatline.Proofs.Grammar.Readback
import Chatline.Proofs.Grammar.Outline
import Chatline.Proofs.Hub.History
import Chatline.Proofs.Hub.Acceptance
import Chatline.Proofs.Hub.Named
import Chatline.Proofs.Registry.Marker
import Chatline.Proofs.Token.Quoting
import Chatline.Proofs.Dispatch.Alias
import Chatline.Proofs.Dispatch.Course
import Chatline.Proofs.Dispatch.Pipeline
import Chatline.Proofs.Dispatch.Escape
import Chatline.Proofs.Script.Upbringing
import Chatline.Proofs.Script.Refusal
import Chatline.Proofs.Match.Offered
import Chatline.Proofs.Dispatch.Suggestions
import Chatline.Proofs.Fault.Styling
import Chatline.Proofs.Rule.Address
import Chatline.Proofs.Datum.Copying
