import Polyglot.Script.Run
import Polyglot.Proofs.Operation.DefUse
import Polyglot.Proofs.Workspace.Life
import Polyglot.Proofs.Workspace.DefUse
import Polyglot.Proofs.Channel.History
import Polyglot.Proofs.Channel.Lawful
import Polyglot.Proofs.Channel.Faithful
import Polyglot.Proofs.Channel.Steady
import Polyglot.Proofs.Channel.Reached
import Polyglot.Proofs.Channel.Bookkeeping
import Polyglot.Proofs.Channel.Course
import Polyglot.Proofs.Channel.Delivery
import Polyglot.Proofs.Channel.Detachment
import Polyglot.Proofs.Channel.Announcement
import Polyglot.Proofs.Channel.Scopes
import Polyglot.Proofs.Channel.Routing
import Polyglot.Proofs.Channel.Candid
import Polyglot.Proofs.Channel.Capture
import Polyglot.Proofs.Channel.Loss
import Polyglot.Proofs.Module.Resolution
import Polyglot.Proofs.Workspace.Admission
import Polyglot.Proofs.Workspace.Refusals
import Polyglot.Proofs.Workspace.Ledger
import Polyglot.Proofs.Workspace.Policy
import Polyglot.Proofs.Environment.Supply
import Polyglot.Proofs.Environment.Growth
import Polyglot.Proofs.Workspace.Stock
import Polyglot.Proofs.Workspace.Views
import Polyglot.Proofs.Household.Run
import Polyglot.Proofs.Household.Views
import Polyglot.Proofs.Household.Dialects
import Polyglot.Proofs.Household.Impartial
import Polyglot.Proofs.Workspace.Draining
import Polyglot.Proofs.Workspace.Misses
import Polyglot.Proofs.Text.Legible
import Polyglot.Proofs.Text.Literal
import Polyglot.Proofs.Text.Types
import Polyglot.Proofs.Text.Locations
import Polyglot.Proofs.Operation.Text
import Polyglot.Proofs.Workspace.Texts
import Polyglot.Proofs.Workspace.Outlook
import Polyglot.Proofs.Lookup
import Polyglot.Proofs.Operation.Judgement
import Polyglot.Proofs.Workspace.Verdicts
import Polyglot.Proofs.Workspace.Insulation
import Polyglot.Proofs.Workspace.Arithmetic
import Polyglot.Proofs.Workspace.Handles
import Polyglot.Proofs.Workspace.Builders
import Polyglot.Proofs.Workspace.Listed
import Polyglot.Proofs.Name.Grammar
import Polyglot.Proofs.Workspace.Attributes
import Polyglot.Proofs.Workspace.Opening
import Polyglot.Proofs.Channel.Depth
import Polyglot.Proofs.Channel.Nesting
import Polyglot.Proofs.Channel.Silence
import Polyglot.Proofs.Workspace.Recursion
import Polyglot.Proofs.Workspace.Echo
import Polyglot.Proofs.Module.Chain
import Polyglot.Proofs.Household.Count
import Polyglot.Proofs.Channel.Census
