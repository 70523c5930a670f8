import Arbiter.Value.Equal
import Arbiter.Value.Merge
import Arbiter.Value.Path
import Arbiter.Value.Print
import Arbiter.Value.Read
import Arbiter.Text.Blank
import Arbiter.Document.Basic
import Arbiter.Document.Scalar
import Arbiter.Document.Typed
import Arbiter.Time.Duration
import Arbiter.Time.Timestamp
import Arbiter.Rule.Action
import Arbiter.Rule.Basic
import Arbiter.Rule.Decode
import Arbiter.Rule.Encode
import Arbiter.Yaml.Cursor
import Arbiter.Yaml.Folding
import Arbiter.Yaml.Names
import Arbiter.Yaml.Quoted
import Arbiter.Yaml.Scanner
import Arbiter.Yaml.Load
import Arbiter.Yaml.Style
import Arbiter.Yaml.Write
import Arbiter.Text.Case
import Arbiter.Text.Scripts
import Arbiter.Text.Similar
import Arbiter.Pattern.Basic
import Arbiter.Pattern.Compile
import Arbiter.Fault
import Arbiter.Verdict.Actions
import Arbiter.Verdict.Claims
import Arbiter.Verdict.Conditions
import Arbiter.Verdict.Basic
import Arbiter.Verdict.Judge
import Arbiter.Bus
import Arbiter.Settings
import Arbiter.Ring
import Arbiter.Timings
import Arbiter.Tuning
import Arbiter.Signal.Prediction
import Arbiter.Signal.Crew
import Arbiter.Rulebook
import Arbiter.Validation
import Arbiter.Engine.Basic
import Arbiter.Engine.Pass
import Arbiter.Engine.Load
import Arbiter.EnvFile
import Arbiter.CommandLine.Arguments
import Arbiter.CommandLine.Run
import Arbiter.Main
import Arbiter.Engine.File
import Arbiter.Proofs.Paths
import Arbiter.Proofs.Claims
import Arbiter.Proofs.Running
import Arbiter.Proofs.Fates
import Arbiter.Proofs.Judgement
import Arbiter.Proofs.Precedence
import Arbiter.Proofs.ShortCircuit
import Arbiter.Proofs.Refusals
import Arbiter.Proofs.Ranking
import Arbiter.Proofs.Alignment
import Arbiter.Proofs.Invisible
import Arbiter.Proofs.Operations
import Arbiter.Proofs.InStep
import Arbiter.Proofs.Rounding
import Arbiter.Proofs.UnitInterval
import Arbiter.Proofs.Shares
import Arbiter.Proofs.Plans
import Arbiter.Proofs.Legality
import Arbiter.Proofs.Recording
import Arbiter.Proofs.Books
import Arbiter.Proofs.Lockstep
import Arbiter.Proofs.Passes
import Arbiter.Proofs.FreshStart
import Arbiter.Proofs.Deadlines
import Arbiter.Proofs.Objections
import Arbiter.Proofs.Approval
import Arbiter.Proofs.Announcements
import Arbiter.Proofs.Calendar
import Arbiter.Proofs.Moments
import Arbiter.Proofs.Documents
import Arbiter.Proofs.Readers
import Arbiter.Proofs.Tagged
import Arbiter.Proofs.RoundTrip
import Arbiter.Proofs.Editions
import Arbiter.Proofs.ReadBack
import Arbiter.Proofs.Overlaps
import Arbiter.Proofs.Foretold
import Arbiter.Proofs.Overwriting
import Arbiter.Proofs.Appending
import Arbiter.Proofs.Nearest
import Arbiter.Proofs.Sameness
import Arbiter.Proofs.Merging
import Arbiter.Proofs.Tables
import Arbiter.Proofs.TrackRecords
import Arbiter.Proofs.Shortlist
import Arbiter.Proofs.Optimizing
import Arbiter.Proofs.Tiling
import Arbiter.Proofs.Stages
import Arbiter.Proofs.Percentiles
import Arbiter.Proofs.ExactPlans
import Arbiter.Proofs.Doubles
import Arbiter.Proofs.Worth
import Arbiter.Proofs.Averages
import Arbiter.Proofs.Distances
import Arbiter.Proofs.Rivals
import Arbiter.Proofs.Suggestions
import Arbiter.Proofs.NameStyle
