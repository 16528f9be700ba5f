import HealthWatch.Heartbeat.Basic
import HealthWatch.Json.Printer
import HealthWatch.Proofs.Fanout.Pointwise
import HealthWatch.Proofs.Heartbeat.Lifecycle
import HealthWatch.Proofs.Heartbeat.Schedule
import HealthWatch.Proofs.Scale.Agreement
import HealthWatch.Scale.Document
import HealthWatch.Settings.Document
import HealthWatch.Settings.Load
import HealthWatch.Proofs.Evaluation.Settling
import HealthWatch.Proofs.Fanout.Serial
import HealthWatch.Proofs.Fanout.Gathering
import HealthWatch.Proofs.Fanout.Chronicle
import HealthWatch.Proofs.Fanout.Shutdown
import HealthWatch.Proofs.Skipping.Overlap
import HealthWatch.Proofs.Skipping.Replays
import HealthWatch.Proofs.Skipping.Order
import HealthWatch.Proofs.Skipping.Rounds
import HealthWatch.Proofs.Skipping.Schedule
import HealthWatch.Proofs.Scale.Construction
import HealthWatch.Proofs.Scale.Highest
import HealthWatch.Proofs.Scale.Rising
import HealthWatch.Proofs.Scale.Grammar
import HealthWatch.Proofs.Evaluation.Moves
import HealthWatch.Proofs.Evaluation.Provenance
import HealthWatch.Proofs.Derived.Renaming
import HealthWatch.Proofs.Derived.Restriction
import HealthWatch.Proofs.Derived.Begun
import HealthWatch.Proofs.Derived.Phase
import HealthWatch.Proofs.Heartbeat.Selection
import HealthWatch.Proofs.Fanout.Reports
import HealthWatch.Proofs.Heartbeat.Life
import HealthWatch.Proofs.Heartbeat.Notices
import HealthWatch.Proofs.Heartbeat.Isolation
import HealthWatch.Proofs.Heartbeat.Skips
import HealthWatch.Proofs.Evaluation.Passage
import HealthWatch.Proofs.Fanout.Unseen
import HealthWatch.Proofs.Fanout.Background
import HealthWatch.Proofs.Heartbeat.Succession
import HealthWatch.Proofs.Fanout.Pools
import HealthWatch.Proofs.Text.Lowercase
import HealthWatch.Proofs.Settings.Layers
import HealthWatch.Proofs.Settings.Loading
import HealthWatch.Proofs.Json.RoundTrip
import HealthWatch.Proofs.Numeral.Digits
import HealthWatch.Proofs.Numeral.Rounding
import HealthWatch.Proofs.Settings.Saving
import HealthWatch.Proofs.Settings.Delays
import HealthWatch.Proofs.Settings.Documents
import HealthWatch.Proofs.Evaluation.InTurn
import HealthWatch.Proofs.Scale.Explanation
import HealthWatch.Proofs.Numeral.Integer
import HealthWatch.Proofs.Scale.RoundTrip
import HealthWatch.Proofs.Evaluation.Collapse
import HealthWatch.Proofs.Evaluation.Translation
import HealthWatch.Proofs.Skipping.Veil
import HealthWatch.Proofs.Skipping.Twins
import HealthWatch.Proofs.Skipping.Nested
import HealthWatch.Proofs.Derived.Periods
import HealthWatch.Proofs.Heartbeat.Aggregation
import HealthWatch.Proofs.Registration
import HealthWatch.Proofs.Verdict
