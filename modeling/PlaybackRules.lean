import PlaybackRules.Distance
import PlaybackRules.Evaluation.Work
import PlaybackRules.Log.Line
import PlaybackRules.Media.Client
import PlaybackRules.Media.Tier
import PlaybackRules.Monitor
import PlaybackRules.Proofs.Interleaving
import PlaybackRules.Proofs.Journal
import PlaybackRules.Proofs.Verdict
import PlaybackRules.Proofs.Waiting
import PlaybackRules.Proofs.Group
import PlaybackRules.Proofs.Walk
import PlaybackRules.Proofs.AtOnce
import PlaybackRules.Proofs.Meaning
import PlaybackRules.Proofs.Agreement
import PlaybackRules.Proofs.FailClosed
import PlaybackRules.Proofs.Result
import PlaybackRules.Proofs.Schedule
import PlaybackRules.Proofs.RuleSet
import PlaybackRules.Proofs.Independence
import PlaybackRules.Proofs.Transcode
import PlaybackRules.Proofs.Accounting
import PlaybackRules.Proofs.Findings
import PlaybackRules.Proofs.Unreadable
import PlaybackRules.Proofs.Behaviour
import PlaybackRules.Proofs.Irrelevance
import PlaybackRules.Proofs.Order
import PlaybackRules.Proofs.TimeShift
import PlaybackRules.Proofs.Equality
import PlaybackRules.Proofs.Comparison
import PlaybackRules.Proofs.Replay
import PlaybackRules.Proofs.Overlooked
import PlaybackRules.Proofs.Suspension
import PlaybackRules.Proofs.Dismissal
import PlaybackRules.Proofs.Nesting
import PlaybackRules.Proofs.WithoutSettings
import PlaybackRules.Proofs.DefaultWindow
import PlaybackRules.Proofs.Travel
import PlaybackRules.Proofs.PreviousSession
import PlaybackRules.Proofs.Windows
import PlaybackRules.Proofs.AddressRange
import PlaybackRules.Proofs.RangeList
import PlaybackRules.Proofs.NoRange
import PlaybackRules.Proofs.Selectors
import PlaybackRules.Proofs.Negation
import PlaybackRules.Proofs.TierNames
import PlaybackRules.Proofs.TierOrder
import PlaybackRules.Proofs.FrameTier
import PlaybackRules.Proofs.FurtherPeer
import PlaybackRules.Proofs.Signs
import PlaybackRules.Proofs.Trigonometry
import PlaybackRules.Proofs.Entries
import PlaybackRules.Proofs.DistanceEvidence
import PlaybackRules.Proofs.Clients
import PlaybackRules.Proofs.Conversion
import PlaybackRules.Proofs.Streams
import PlaybackRules.Proofs.Bitrate
import PlaybackRules.Proofs.Elapsed
import PlaybackRules.Proofs.WrittenMoment
import PlaybackRules.Proofs.Rereading
