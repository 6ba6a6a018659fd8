import ProofTrial.Parameters
import ProofTrial.Proofs.Json.Value

/-! Parameters in files. The file reads as the parameters with all names in order, and that value
stands for the same parameters. -/
namespace ProofTrial
open Json

namespace Json

theorem Node.expectNat_ofJson {bits n : Nat} (h : n < 2 ^ bits) :
    (ofJson (.integer n)).expectNat bits = .ok n := by
  have hn : (0 : Int) ≤ n ∧ (n : Int) ≤ 2 ^ bits - 1 := by
    have hlt : (n : Int) < 2 ^ bits := by exact_mod_cast h
    omega
  simp [integer, ofJson, expectNat, expectInteger, hn, Except.map]

/-- Numbers of 64 bits are read as they are written. -/
theorem integral_word {n : Nat} (h : n < 2 ^ 64) : Integral (.integer n) := by
  have hn : (n : Int) < 2 ^ 64 := by exact_mod_cast h
  refine .integer ?_ ?_
  · exact le_trans (by decide) (Int.natCast_nonneg n)
  · exact Int.le_sub_one_of_lt hn

/-- Numbers in a parameter file. -/
theorem integral_nat {n : Nat} (h : n < 2 ^ 32) : Integral (.integer n) :=
  integral_word (h.trans (by decide))

/-- A list of numbers. -/
def nats (ns : List Nat) : Json := .array (ns.map fun n : Nat => .integer n)

theorem ordered_nats (ns : List Nat) : Ordered (nats ns) := by
  refine .array ?_
  intro v hv
  obtain ⟨n, _, rfl⟩ := List.mem_map.mp hv
  exact .number _

theorem within_nats (d : Nat) (ns : List Nat) : Within (d + 1) (nats ns) := by
  refine .array ?_
  intro v hv
  obtain ⟨n, _, rfl⟩ := List.mem_map.mp hv
  exact .number d _

theorem integral_nats {ns : List Nat} (h : ∀ n ∈ ns, n < 2 ^ 32) : Integral (nats ns) := by
  refine .array ?_
  intro v hv
  obtain ⟨n, hn, rfl⟩ := List.mem_map.mp hv
  exact integral_nat (h n hn)

end Json

namespace FriParameters

/-- All numbers fit their place in the file. -/
structure Fits (p : FriParameters) : Prop where
  bound : p.lastLayerDegreeBound < 2 ^ 32
  queries : p.queries < 2 ^ 32
  steps : ∀ n ∈ p.stepList, n < 2 ^ 32
  work : p.proofOfWorkBits < 2 ^ 32

/-- The parameters as a value that was read. -/
def value (p : FriParameters) : Json :=
  .object [
    ("fri_step_list", nats p.stepList),
    ("last_layer_degree_bound", .integer p.lastLayerDegreeBound),
    ("n_queries", .integer p.queries),
    ("proof_of_work_bits", .integer p.proofOfWorkBits)]

theorem toJson_eq (p : FriParameters) : p.toJson = .object [
    ("last_layer_degree_bound", .integer p.lastLayerDegreeBound),
    ("n_queries", .integer p.queries),
    ("fri_step_list", nats p.stepList),
    ("proof_of_work_bits", .integer p.proofOfWorkBits)] := rfl

theorem ordered_value (p : FriParameters) : Ordered p.value := by
  refine .object (sorted_of_names ["fri_step_list", "last_layer_degree_bound", "n_queries",
    "proof_of_work_bits"] rfl (by decide)) ?_
  simp [ordered_integer, ordered_nats]

theorem within_value (d : Nat) (p : FriParameters) : Within (d + 2) p.value := by
  refine .object ?_
  simp [within_integer, within_nats]

theorem integral_value {p : FriParameters} (h : p.Fits) : Integral p.value := by
  refine .object ?_
  simp [integral_nats h.steps, integral_nat h.bound, integral_nat h.queries, integral_nat h.work]

theorem integral_toJson {p : FriParameters} (h : p.Fits) : Integral p.toJson := by
  rw [toJson_eq]
  refine .object ?_
  simp [integral_nats h.steps, integral_nat h.bound, integral_nat h.queries, integral_nat h.work]

theorem value_toJson (d : Nat) (p : FriParameters) :
    Node.value (d + 2) (Node.ofJson p.toJson) = .ok p.value := by
  rw [toJson_eq, Node.value_ofJson_object (Node.fieldValues_ofFieldList fun f hf => ?_)]
  · simp (disch := decide) only [ofFields, List.foldl_cons, List.foldl_nil, setField_before,
      setField_after, setField_nil, value]
  · have hall : ∀ f ∈ [("last_layer_degree_bound", Json.integer p.lastLayerDegreeBound),
        ("n_queries", .integer p.queries), ("fri_step_list", nats p.stepList),
        ("proof_of_work_bits", .integer p.proofOfWorkBits)],
        Ordered f.2 ∧ Within (d + 1) f.2 := by
      simp [ordered_integer, ordered_nats, within_integer, within_nats]
    exact Node.value_ofJson (hall f hf).1 (hall f hf).2

theorem ofNode_value {p : FriParameters} (h : p.Fits) : ofNode (Node.ofJson p.value) = .ok p := by
  have hs : Node.expectList (·.expectNat 32) (Node.ofJson (nats p.stepList)) = .ok p.stepList :=
    Node.expectList_ofJson fun n hn => Node.expectNat_ofJson (h.steps n hn)
  rw [ofNode, value, Node.ofJson]
  simp only [Node.ofFieldList, Node.expectRecord, Node.expectObject, Node.foldFields, readField,
    Node.once, hs, Node.expectNat_ofJson h.bound, Node.expectNat_ofJson h.queries,
    Node.expectNat_ofJson h.work, Except.map, Node.endOf, finish, Node.required]
  rfl

end FriParameters

namespace ProverParameters

/-- All numbers fit their place in the file, and there is a query. -/
structure Fits (p : ProverParameters) : Prop where
  cosets : p.logCosets < 2 ^ 32
  fri : p.fri.Fits
  queried : 0 < p.fri.queries

/-- The parameters as a value that was read. -/
def value (p : ProverParameters) : Json :=
  .object [("stark", .object [
    ("enable_zero_knowledge", .bool p.zeroKnowledge),
    ("fri", p.fri.value),
    ("log_n_cosets", .integer p.logCosets)])]

theorem ordered_value (p : ProverParameters) : Ordered p.value := by
  refine .object (sorted_singleton _) ?_
  intro f hf
  obtain rfl := List.mem_singleton.mp hf
  refine .object (sorted_of_names ["enable_zero_knowledge", "fri", "log_n_cosets"] rfl
    (by decide)) ?_
  simp [ordered_integer, Ordered.bool, p.fri.ordered_value]

theorem within_value (d : Nat) (p : ProverParameters) : Within (d + 4) p.value := by
  refine .object ?_
  intro f hf
  obtain rfl := List.mem_singleton.mp hf
  refine .object ?_
  simp [within_integer, Within.bool, p.fri.within_value d]

theorem integral_value {p : ProverParameters} (h : p.Fits) : Integral p.value := by
  refine .object ?_
  intro f hf
  obtain rfl := List.mem_singleton.mp hf
  refine .object ?_
  simp [Integral.bool, p.fri.integral_value h.fri, integral_nat h.cosets]

theorem integral_toJson {p : ProverParameters} (h : p.Fits) : Integral p.toJson := by
  refine .object ?_
  intro f hf
  obtain rfl := List.mem_singleton.mp hf
  refine .object ?_
  simp [Integral.bool, p.fri.integral_toJson h.fri, integral_nat h.cosets]

/-- The file reads as the value. -/
theorem value_toJson (d : Nat) (p : ProverParameters) :
    Node.value (d + 4) (Node.ofJson p.toJson) = .ok p.value := by
  have hfri := p.fri.value_toJson d
  have hstark : Node.fieldValues (d + 2) (Node.ofFieldList [
      ("log_n_cosets", .integer p.logCosets), ("enable_zero_knowledge", .bool p.zeroKnowledge),
      ("fri", p.fri.toJson)]) = .ok [("log_n_cosets", .integer p.logCosets),
      ("enable_zero_knowledge", .bool p.zeroKnowledge), ("fri", p.fri.value)] := by
    simp only [Node.ofFieldList, Node.fieldValues, hfri, Except.map]
    rfl
  have htop : Node.fieldValues (d + 3) (Node.ofFieldList [("stark", .object [
      ("log_n_cosets", .integer p.logCosets), ("enable_zero_knowledge", .bool p.zeroKnowledge),
      ("fri", p.fri.toJson)])]) = .ok [("stark", ofFields [("log_n_cosets", .integer p.logCosets),
      ("enable_zero_knowledge", .bool p.zeroKnowledge), ("fri", p.fri.value)])] := by
    rw [Node.ofFieldList, Node.fieldValues, Node.value_ofJson_object hstark]
    rfl
  rw [toJson, Node.value_ofJson_object htop]
  simp (disch := decide) only [ofFields, List.foldl_cons, List.foldl_nil, setField_before,
    setField_after, setField_nil, value]

/-- The value stands for the parameters. -/
theorem ofNode_value {p : ProverParameters} (h : p.Fits) :
    ofNode (Node.ofJson p.value) = .ok p := by
  have hstark : ofStarkNode (Node.ofJson (.object [
      ("enable_zero_knowledge", .bool p.zeroKnowledge), ("fri", p.fri.value),
      ("log_n_cosets", .integer p.logCosets)])) = .ok p := by
    rw [ofStarkNode, Node.ofJson]
    simp only [Node.ofFieldList, Node.expectRecord, Node.expectObject, Node.foldFields, readField,
      Node.once, FriParameters.ofNode_value h.fri, Node.expectNat_ofJson h.cosets, Except.map,
      Node.endOf, finish, Node.required]
    rfl
  rw [ofNode, value, Node.ofJson]
  simp only [Node.ofFieldList, Node.expectRecord, Node.expectObject, Node.foldFields, readTopField,
    Node.once, hstark, Except.map, Node.endOf, Node.required]

end ProverParameters
end ProofTrial
