import ProofTrial.Main
import ProofTrial.Random.WordCycle
import ProofTrial.Proofs.Json.Fields
import ProofTrial.Proofs.Json.Value
import ProofTrial.Proofs.Json.Layout
import ProofTrial.Proofs.ArtifactFile
import ProofTrial.Proofs.Mutation
import ProofTrial.Proofs.Corruption
import ProofTrial.Proofs.Trial.Course
import ProofTrial.Proofs.Trial.Steps
import ProofTrial.Proofs.Trial.Verdict
import ProofTrial.Proofs.Trial.Stages
import ProofTrial.Proofs.Trial.Damage
import ProofTrial.Proofs.Trial.Inputs
import ProofTrial.Proofs.Parameters
import ProofTrial.Proofs.StandIn
import ProofTrial.Proofs.Trial.StandIn
import ProofTrial.Proofs.Schedule
import ProofTrial.Proofs.Field.Power
import ProofTrial.Proofs.Field.Montgomery
import ProofTrial.Proofs.Field.Sampler
import ProofTrial.Proofs.Field.Text
import ProofTrial.Proofs.Keys
import ProofTrial.Proofs.Witness
import ProofTrial.Proofs.Witness.Rows
import ProofTrial.Proofs.Trial.Prepared
import ProofTrial.Proofs.Claim
import ProofTrial.Proofs.StandIn.Binding
import ProofTrial.Proofs.Suite
import ProofTrial.Proofs.CommandLine.Session
import ProofTrial.Proofs.Trial.Log
import ProofTrial.Proofs.Random.Range
import ProofTrial.Proofs.Random.Separation
import ProofTrial.Proofs.Text.Bytes
import ProofTrial.Proofs.Mutation.Bytes
import ProofTrial.Proofs.Mutation.Flip
import ProofTrial.Proofs.Mutation.Foreign
import ProofTrial.Proofs.Mutation.Offsets
import ProofTrial.Proofs.Field.Calls
import ProofTrial.Proofs.BitFlip
import ProofTrial.Proofs.Text.Word
import ProofTrial.Proofs.Corruption.Words
import ProofTrial.Proofs.Corruption.ChainLength
import ProofTrial.Proofs.AnnotationLog
import ProofTrial.Proofs.Keys.Text
import ProofTrial.Proofs.Corruption.Message
import ProofTrial.Proofs.Field.Take
import ProofTrial.Proofs.Permutation
import ProofTrial.Proofs.FileTree
import ProofTrial.Proofs.CommandLine.Generation
