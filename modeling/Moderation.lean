import Moderation.Engine.Server
import Moderation.Filter.Polish
import Moderation.Proofs.Engine.HandlerMessages
import Moderation.Proofs.Engine.Replacement
import Moderation.Proofs.Rule.Block
import Moderation.Rule.Sources
import Moderation.Timer
import Moderation.Tree.Render
import Moderation.Proofs.Filter.Delay
import Moderation.Proofs.Filter.Repetition
import Moderation.Proofs.Engine.Packet
import Moderation.Proofs.Engine.Surroundings
import Moderation.Proofs.Engine.Server
import Moderation.Proofs.Engine.Traffic
import Moderation.Proofs.Engine.Isolation
import Moderation.Proofs.Rule.Description
import Moderation.Proofs.Rule.Alike
import Moderation.Proofs.Rule.Texts
import Moderation.Proofs.Rule.Duplicate
import Moderation.Proofs.Number.Nearest
import Moderation.Proofs.Number.Shortest
import Moderation.Proofs.Engine.Queries
import Moderation.Proofs.Tree.Texts
import Moderation.Proofs.Engine.Leaves
import Moderation.Proofs.Engine.Faults
import Moderation.Proofs.Text.Codes
import Moderation.Proofs.Engine.NoTime
import Moderation.Proofs.Engine.Templates
import Moderation.Proofs.Regex.Forward
import Moderation.Proofs.Regex.Order
import Moderation.Proofs.Engine.Spans
import Moderation.Proofs.Regex.Template
import Moderation.Proofs.Engine.Expansions
import Moderation.Proofs.Filter.Independence
import Moderation.Proofs.Regex.Literal
import Moderation.Proofs.Engine.DeniedWord
import Moderation.Proofs.Engine.Gates
import Moderation.Proofs.Number.Monotone
import Moderation.Proofs.Engine.Tally
import Moderation.Proofs.Engine.Counters
import Moderation.Proofs.Engine.Delivery
import Moderation.Proofs.Engine.Notices
import Moderation.Proofs.Rule.WellFormed
import Moderation.Proofs.Log.Files
import Moderation.Proofs.Log.Trail
import Moderation.Proofs.Rule.Loading
import Moderation.Proofs.Filter.CostTable
import Moderation.Proofs.Filter.FirstArgument
import Moderation.Proofs.Filter.Preparation
import Moderation.Proofs.Filter.Passes
import Moderation.Proofs.Filter.Similarity
import Moderation.Proofs.Filter.Wait
import Moderation.Proofs.Rule.Order
import Moderation.Proofs.Rule.Layout
import Moderation.Proofs.Engine.Steps
import Moderation.Proofs.Engine.Turns
import Moderation.Proofs.Engine.Timing
import Moderation.Proofs.Regex.Walk
import Moderation.Proofs.Engine.Walk
import Moderation.Proofs.Filter.Corrections
import Moderation.Proofs.Rule.Offers
import Moderation.Proofs.Rule.Alternatives
import Moderation.Proofs.Filter.Capitals
import Moderation.Proofs.Filter.Lowering
import Moderation.Proofs.Text.Ampersands
import Moderation.Proofs.Log.Lines
