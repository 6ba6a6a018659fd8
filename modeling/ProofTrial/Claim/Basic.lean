import ProofTrial.Error
import ProofTrial.Json.Basic

/-!
Public claims. A claim keeps the fields it does not know; it is written with its own fields
first, and becomes a JSON value with all names in order.
-/
namespace ProofTrial

structure RescueClaim where
  output : List String
  chainLength : Int
  extra : Json.Fields
  deriving DecidableEq, Repr

structure ZiggyClaim where
  message : String
  publicKey : List String
  extra : Json.Fields
  deriving DecidableEq, Repr

namespace Claim

/-- Claimed chain lengths are signed numbers of 64 bits. -/
def minChainLength : Int := -2 ^ 63

def maxChainLength : Int := 2 ^ 63 - 1

def isChainLength (n : Int) : Bool := minChainLength ≤ n && n ≤ maxChainLength

end Claim

namespace RescueClaim

def fieldNames : List String := ["output", "chain_length"]

def fields (c : RescueClaim) : Json.Fields :=
  ("output", .strings c.output) :: ("chain_length", .integer c.chainLength) :: c.extra

def toJson (c : RescueClaim) : Json := .object c.fields

def toValue (c : RescueClaim) : Json := .ofFields c.fields

def ofValue? : Json → Option RescueClaim
  | .object fs => do
    let output ← (fs.lookup "output").bind Json.strings?
    let n ← (fs.lookup "chain_length").bind Json.integer?
    if Claim.isChainLength n then
      some ⟨output, n, fs.filter fun f => !fieldNames.contains f.1⟩
    else none
  | _ => none

end RescueClaim

namespace ZiggyClaim

def fieldNames : List String := ["message", "public_key"]

def fields (c : ZiggyClaim) : Json.Fields :=
  ("message", .string c.message) :: ("public_key", .strings c.publicKey) :: c.extra

def toJson (c : ZiggyClaim) : Json := .object c.fields

def toValue (c : ZiggyClaim) : Json := .ofFields c.fields

def ofValue? : Json → Option ZiggyClaim
  | .object fs => do
    let message ← (fs.lookup "message").bind Json.string?
    let key ← (fs.lookup "public_key").bind Json.strings?
    some ⟨message, key, fs.filter fun f => !fieldNames.contains f.1⟩
  | _ => none

end ZiggyClaim

namespace Claim

/-- Where a claim that does not read is reported. -/
def context : String := "public_input"

def malformed : Error := .json context .data

def rescueOfValue (v : Json) : Except Error RescueClaim :=
  match RescueClaim.ofValue? v with
  | some c => .ok c
  | none => .error malformed

def ziggyOfValue (v : Json) : Except Error ZiggyClaim :=
  match ZiggyClaim.ofValue? v with
  | some c => .ok c
  | none => .error malformed

end Claim
end ProofTrial
