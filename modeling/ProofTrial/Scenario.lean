import ProofTrial.Claim.Corruption
import ProofTrial.Mutation.Basic

/-!
Scenarios: what a trial does, what it must find, and the tables of both schemes. A scenario
damages the proof in at most one way and the claim in at most one way.
-/
namespace ProofTrial

inductive Expectation where
  | accept
  | reject
  deriving DecidableEq, Repr

def Expectation.name : Expectation → String
  | accept => "accept"
  | reject => "reject"

/-- Where the witness or the keys come from. -/
inductive InputSource where
  | random
  | golden
  deriving DecidableEq, Repr

def InputSource.name : InputSource → String
  | random => "random"
  | golden => "golden"

/-- The name that progress lines show. -/
def InputSource.title : InputSource → String
  | random => "Random"
  | golden => "Golden"

/-- Signatures are always proved in zero knowledge, whatever `zeroKnowledge` says. -/
structure Scenario (scheme : Scheme) where
  name : String
  expectation : Expectation
  source : InputSource
  zeroKnowledge : Bool
  mutation : Mutation
  corruption : Option (Corruption scheme)
  deriving DecidableEq, Repr

namespace Scenario

/-- An honest run, which must verify. -/
def accept (name : String) (source : InputSource) (zeroKnowledge : Bool) : Scenario scheme :=
  ⟨name, .accept, source, zeroKnowledge, .identity, none⟩

/-- Random inputs and a damaged proof, which must be rejected. -/
def mutated (name : String) (zeroKnowledge : Bool) (mutation : Mutation) : Scenario scheme :=
  ⟨name, .reject, .random, zeroKnowledge, mutation, none⟩

/-- Random inputs and a false claim, which must be rejected. -/
def corrupted (name : String) (zeroKnowledge : Bool) (corruption : Corruption scheme) :
    Scenario scheme :=
  ⟨name, .reject, .random, zeroKnowledge, .identity, some corruption⟩

def rescueTable : List (Scenario .rescue) := [
  accept "random" .random false,
  accept "random_zero_knowledge" .random true,
  accept "golden" .golden false,
  accept "golden_zero_knowledge" .golden true,
  mutated "truncate_last_byte" false .truncateLastByte,
  mutated "empty_proof" false .empty,
  mutated "remove_random_byte" false .removeRandomByte,
  mutated "flip_random_bit" false .flipRandomBit,
  corrupted "claim_chain_length" false .chainLength,
  corrupted "claim_output" false .output]

def ziggyTable : List (Scenario .ziggy) := [
  accept "random_keys" .random false,
  accept "golden_keys" .golden false,
  mutated "truncate_last_byte" false .truncateLastByte,
  mutated "empty_proof" false .empty,
  mutated "remove_random_byte" false .removeRandomByte,
  mutated "flip_random_bit" false .flipRandomBit,
  corrupted "claim_message" false .message,
  corrupted "claim_public_key" false .publicKey]

def table : (scheme : Scheme) → List (Scenario scheme)
  | .rescue => rescueTable
  | .ziggy => ziggyTable

/-- How the damage is shown. -/
def damage (s : Scenario scheme) : String :=
  s.mutation.name ++ " / " ++ (s.corruption.map Corruption.name).getD "no claim change"

end Scenario

/-- Stages of a trial, in the order they are reached. -/
inductive Stage where
  | init
  | inputsPrepared
  | proved
  | mutated
  | verified
  | asserted
  deriving DecidableEq, Repr

namespace Stage

def all : List Stage := [init, inputsPrepared, proved, mutated, verified, asserted]

/-- The name that progress lines show. -/
def name : Stage → String
  | init => "init"
  | inputsPrepared => "inputs"
  | proved => "proved"
  | mutated => "mutated"
  | verified => "verified"
  | asserted => "asserted"

/-- The name in reports. -/
def label : Stage → String
  | inputsPrepared => "inputs_prepared"
  | s => s.name

def percent : Stage → Nat
  | init => 0
  | inputsPrepared => 10
  | proved => 60
  | mutated => 70
  | verified => 95
  | asserted => 100

end Stage

structure Progress where
  scheme : Scheme
  scenario : String
  stage : Stage
  detail : String
  deriving DecidableEq, Repr

end ProofTrial
