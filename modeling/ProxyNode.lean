import ProxyNode.Engine.Demo
import ProxyNode.Main
import ProxyNode.Node.Status
import ProxyNode.Text.Base64
import ProxyNode.Proofs.Data.OrderedMap
import ProxyNode.Proofs.Traffic.Amount
import ProxyNode.Proofs.Traffic.Accumulator
import ProxyNode.Proofs.Node.Steps
import ProxyNode.Proofs.Retry
import ProxyNode.Proofs.Node.Books
import ProxyNode.Proofs.Node.Frames
import ProxyNode.Proofs.Node.Report
import ProxyNode.Proofs.Node.Conservation
import ProxyNode.Proofs.Node.Start
import ProxyNode.Proofs.Traffic.Spool
import ProxyNode.Proofs.Node.Carry
import ProxyNode.Proofs.Node.Lineage
import ProxyNode.Proofs.Roster.Keyed
import ProxyNode.Proofs.Roster.Diff
import ProxyNode.Proofs.Roster.Patch
import ProxyNode.Proofs.Roster.Standing
import ProxyNode.Proofs.Node.Holding
import ProxyNode.Proofs.Node.Application
import ProxyNode.Proofs.Node.Isolation
import ProxyNode.Proofs.Engine.Basic
import ProxyNode.Proofs.Node.Registry
import ProxyNode.Proofs.Node.Convergence
import ProxyNode.Proofs.Traffic.Sharding
import ProxyNode.Proofs.Node.Positive
import ProxyNode.Proofs.Node.Survival
import ProxyNode.Proofs.Traffic.Limits
import ProxyNode.Proofs.Node.Completion
import ProxyNode.Proofs.Panel.Tags
import ProxyNode.Proofs.Node.Coherence
import ProxyNode.Proofs.Engine.Replay
import ProxyNode.Proofs.Node.Calls
import ProxyNode.Proofs.Node.Passes
import ProxyNode.Proofs.Node.Refusals
import ProxyNode.Proofs.Panel.Verdicts
import ProxyNode.Proofs.Node.Crew
import ProxyNode.Proofs.Node.Fate
import ProxyNode.Proofs.Traffic.Interleaving
import ProxyNode.Proofs.Data.Matches
import ProxyNode.Proofs.Roster.Guise
import ProxyNode.Proofs.Engine.Guise
import ProxyNode.Proofs.Node.Pace
import ProxyNode.Proofs.Node.Likeness
import ProxyNode.Proofs.Node.Halves
import ProxyNode.Proofs.Node.Lockstep
import ProxyNode.Proofs.Node.Abreast
import ProxyNode.Proofs.Node.Apart
import ProxyNode.Proofs.Panel.Veil
import ProxyNode.Proofs.Node.Veiled
import ProxyNode.Proofs.Node.Secrecy
import ProxyNode.Proofs.Node.Late
import ProxyNode.Proofs.Node.Promptness
import ProxyNode.Proofs.Node.Disturbance
import ProxyNode.Proofs.Node.Adrift
import ProxyNode.Proofs.Node.Restart
import ProxyNode.Proofs.Retry.Attempts
import ProxyNode.Proofs.Traffic.Store
import ProxyNode.Proofs.Panel.Dialogue
import ProxyNode.Proofs.Node.Outset
import ProxyNode.Proofs.Engine.Handles
import ProxyNode.Proofs.Config.Settings
import ProxyNode.Proofs.Roster.Keying
import ProxyNode.Proofs.Traffic.Canonical
