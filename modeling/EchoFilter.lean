import EchoFilter.Json.Values
import EchoFilter.Metrics.Exposition
import EchoFilter.Pipeline
import EchoFilter.Text.Hex.Lemmas
import EchoFilter.Proofs.Acts
import EchoFilter.Proofs.DatedKeys
import EchoFilter.Proofs.WindowSteps
import EchoFilter.Proofs.Coherence
import EchoFilter.Proofs.Soundness
import EchoFilter.Proofs.History
import EchoFilter.Proofs.Retention
import EchoFilter.Proofs.Chronicle
import EchoFilter.Proofs.Halves
import EchoFilter.Proofs.OneWindow
import EchoFilter.Proofs.Echoes
import EchoFilter.Proofs.Loosening
import EchoFilter.Proofs.Contents
import EchoFilter.Proofs.Deliveries
import EchoFilter.Proofs.Sendings
import EchoFilter.Proofs.Sessions
import EchoFilter.Proofs.Spacing
import EchoFilter.Proofs.Isolation
import EchoFilter.Proofs.Tallies
import EchoFilter.Proofs.Ties
import EchoFilter.Proofs.Timelines
import EchoFilter.Proofs.Refusals
import EchoFilter.Proofs.Quiescence
import EchoFilter.Proofs.Alone
import EchoFilter.Proofs.Flows
import EchoFilter.Proofs.Bridges
import EchoFilter.Proofs.Spellings
import EchoFilter.Proofs.Readers
import EchoFilter.Proofs.Records
import EchoFilter.Proofs.RoundTrips
import EchoFilter.Proofs.Variables
import EchoFilter.Proofs.Loading
import EchoFilter.Proofs.Effects
import EchoFilter.Proofs.Balance
import EchoFilter.Proofs.Idling
import EchoFilter.Proofs.Origins
import EchoFilter.Proofs.Policies
import EchoFilter.Proofs.Restarts
import EchoFilter.Proofs.Configuring
import EchoFilter.Proofs.Leniency
import EchoFilter.Proofs.Admission
import EchoFilter.Proofs.Identities
import EchoFilter.Proofs.Recorders
import EchoFilter.Proofs.Placements
