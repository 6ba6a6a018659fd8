import ProofTrial.Proofs.Keys
import ProofTrial.Proofs.Keys.Text
import ProofTrial.Proofs.Schedule
import ProofTrial.Proofs.Trial.Inputs

/-! Prepared inputs are consistent. The files of one trial speak of one witness or one pair of
keys, in words that read as it, and its schedule is always made: preparation fails only where the
permutation does, or where a drawn seed has no preimage. -/
namespace ProofTrial
open Json

theorem Json.field?_ofFields (name : String) {fs : Fields} (h : (fs.map Prod.fst).Nodup) :
    (ofFields fs).field? name = fs.lookup name := by
  rw [ofFields_eq]
  exact lookup_sortFields name h

theorem Witness.canonical_toHexRows (w : Witness) : ∀ row ∈ w.toHexRows, row.length = wordSize ∧
    ∀ text ∈ row, ∃ n < Field.prime, Hex.Canonical text n := by
  intro words hw
  obtain ⟨row, _, rfl⟩ := List.mem_map.mp hw
  exact ⟨row.length_toHex, row.canonical_toHex⟩

/-- Chains of the length that trials draw or take always have a schedule. -/
theorem Schedule.exists_ofChainLength {w : Witness} {queries : Nat} (h : w.Whole)
    (hl : w.chainLength ≤ Witness.maxRandomLength) (hpos : 0 < queries)
    (hq : queries < 2 ^ 32) (zk : Bool) :
    ∃ p, ofChainLength w.chainLength Witness.airHeight Witness.hashesPerInstance queries zk =
      .ok p ∧ p.fri.queries = queries := by
  have hrows : w.chainLength / Witness.hashesPerInstance * Witness.airHeight ≤
      Witness.maxRandomLength * Witness.airHeight :=
    Nat.mul_le_mul_right _ ((Nat.div_le_self _ _).trans hl)
  have hsmall : Witness.maxRandomLength * Witness.airHeight ≤
      if zk then 2 ^ 62 else 2 ^ 63 := by
    cases zk <;> decide
  have hs : Schedulable w.chainLength Witness.airHeight Witness.hashesPerInstance queries zk :=
    ⟨by decide, ⟨h.positive, h.instances⟩, by decide, hpos, hrows.trans hsmall⟩
  obtain ⟨p, hp, hf⟩ := ofChainLength_of_schedulable hq hs
  exact ⟨p, hp, hf.queries⟩

/-- So does the trace of a signature, up to the queries that are drawn. -/
theorem Schedule.exists_ofTraceLength {queries : Nat} (hpos : 0 < queries)
    (hq : queries ≤ ProverInputs.maxQueries) :
    ∃ p, ofTraceLength ProverInputs.ziggyTraceLength queries true = .ok p ∧
      p.fri.queries = queries := by
  have hrows : paddedRows (2 ^ 4) queries ≤ 2 ^ 6 := by
    have hmax : queries ≤ 30 := hq
    unfold paddedRows
    omega
  have hfolds : foldsOf 4 queries true < 64 :=
    lt_of_le_of_lt (Nat.clog_le_of_le_pow hrows) (by decide)
  exact ⟨_, (ofTraceLength_two_pow 4 hpos true).trans (if_pos hfolds), rfl⟩

namespace ProverInputs

/-- What a prover of chains is given, all of one witness. -/
structure ChainConsistent (source : InputSource) (zk : Bool) (permute : Permutation) (w : Witness)
    (inputs : ProverInputs) (rows : List (List String)) (length : Nat) (output : List String) :
    Prop where
  secret : inputs.privateInput.field? "witness" = some (.array (rows.map strings))
  claimedLength : inputs.publicInput.field? "chain_length" = some (.integer length)
  claimedOutput : inputs.publicInput.field? "output" = some (.strings output)
  rowCount : rows.length = length + 1
  instances : 0 < length ∧ 3 ∣ length
  words : ∀ row ∈ rows, row.length = 4 ∧
    ∀ text ∈ row, ∃ n < Field.prime, Hex.Canonical text n
  reads : Witness.ofHexRows rows = .ok w
  queries : 1 ≤ inputs.parameters.fri.queries ∧ inputs.parameters.fri.queries ≤ 30
  schedule : Schedule.ofChainLength length 32 3 inputs.parameters.fri.queries zk =
    .ok inputs.parameters
  drawn : source = .random → length ≤ 96 ∧ ∃ (reread : Witness) (out : Row),
    Witness.ofHexRows rows = .ok reread ∧ permute.hashChain reread.rows = .ok out ∧
      output = out.toHex

/-- What a prover of signatures is given, all of one pair of keys. -/
structure KeysConsistent (source : InputSource) (permute : Permutation) (inputs : ProverInputs)
    (privateKey : String) (publicKey : List String) : Prop where
  secret : inputs.privateInput.field? "private_key" = some (.string privateKey)
  claimedKey : inputs.publicInput.field? "public_key" = some (.strings publicKey)
  queries : 20 ≤ inputs.parameters.fri.queries ∧ inputs.parameters.fri.queries ≤ 30
  schedule : Schedule.ofTraceLength 16 inputs.parameters.fri.queries true = .ok inputs.parameters
  drawn : source = .random → ∃ (seed : Seed) (v : Vector Felt 8) (row : Row),
    Seed.ofHex privateKey = .ok seed ∧ seed.secretPreimage = .ok v ∧ permute v = .ok row ∧
      publicKey = row.toHex

variable {σ : Type} [RandomSource σ]

def Consistent (scheme : Scheme) (source : InputSource) (zk : Bool) (permute : Permutation) (s : σ)
    (inputs : ProverInputs) : Prop :=
  match scheme with
  | .rescue => ∃ (p : ChainProof) (t : σ) (rows : List (List String)) (length : Nat)
      (output : List String), chainOf source permute s = (.ok p, t) ∧
        ChainConsistent source zk permute p.witness inputs rows length output
  | .ziggy => ∃ (privateKey : String) (publicKey : List String),
      KeysConsistent source permute inputs privateKey publicKey

/-- Why random inputs may fail to be prepared: a call of the permutation on what was drawn does,
or the drawn seed has no preimage. -/
def Excused (scheme : Scheme) (permute : Permutation) (s : σ) (e : Error) : Prop :=
  match scheme with
  | .rescue => permute.FailsIn (Witness.drawn s).1.rows e
  | .ziggy => (∃ v, (Seed.random s).1.secretPreimage = .ok v ∧ permute v = .error e) ∨
      ((Seed.random s).1.secretPreimage = .error e ∧ ∃ f, e = .internal f)

theorem le_drawQueries {least : Nat} (h : 0 < maxQueries + 1 - least) (s : σ) :
    least ≤ (drawQueries least h s).1 := Nat.le_add_right _ _

theorem chainConsistent {source : InputSource} {permute : Permutation} {p : ChainProof}
    {queries : Nat} {zk : Bool} {parameters : ProverParameters} (hw : p.witness.Whole)
    (hl : p.witness.chainLength ≤ Witness.maxRandomLength)
    (hout : source = .random → permute.hashChain p.witness.rows = .ok p.output)
    (hq : 1 ≤ queries ∧ queries ≤ maxQueries) (hf : parameters.fri.queries = queries)
    (hs : rescueParameters p queries zk = .ok parameters) :
    ChainConsistent source zk permute p.witness
      ⟨parameters, (rescueClaim p).toValue, p.privateInput, .standard⟩ p.witness.toHexRows
      p.witness.chainLength p.output.toHex := by
  have hnames : ((rescueClaim p).fields.map Prod.fst).Nodup := by
    show ["output", "chain_length"].Nodup
    decide
  have hread := Witness.ofHexRows_toHexRows hw
  subst hf
  constructor
  case secret => rfl
  case claimedLength => exact field?_ofFields "chain_length" hnames
  case claimedOutput => exact field?_ofFields "output" hnames
  case rowCount => rw [Witness.toHexRows, List.length_map, hw.length_rows]
  case instances => exact ⟨hw.positive, hw.instances⟩
  case words => exact p.witness.canonical_toHexRows
  case reads => exact hread
  case queries => exact hq
  case schedule => exact hs
  case drawn => exact fun hr => ⟨hl, p.witness, p.output, hread, hout hr, rfl⟩

theorem keysConsistent {source : InputSource} {permute : Permutation} {k : KeyPair}
    {queries : Nat} {parameters : ProverParameters}
    (hkeys : source = .random → KeyPair.ofSeed permute k.privateKey = .ok k)
    (hq : ziggyMinQueries ≤ queries ∧ queries ≤ maxQueries) (hf : parameters.fri.queries = queries)
    (hs : Schedule.ofTraceLength ziggyTraceLength queries true = .ok parameters) :
    KeysConsistent source permute
      ⟨parameters, (ziggyClaim scenarioMessage k).toValue, k.privateInput, .standard⟩
      k.privateKey.toHex k.publicKey.toHex := by
  have hnames : ((ziggyClaim scenarioMessage k).fields.map Prod.fst).Nodup := by
    show ["message", "public_key"].Nodup
    decide
  subst hf
  constructor
  case secret => rfl
  case claimedKey => exact field?_ofFields "public_key" hnames
  case queries => exact hq
  case schedule => exact hs
  case drawn =>
    intro hr
    obtain ⟨_, v, hv, hrow⟩ := KeyPair.ofSeed_eq_ok.mp (hkeys hr)
    exact ⟨k.privateKey, v, k.publicKey, Seed.ofHex_toHex k.privateKey, hv, hrow, rfl⟩

/-- Keys are taken, or derived from a drawn seed. -/
theorem keysOf_cases (source : InputSource) (permute : Permutation) (s : σ) :
    (∃ k t, keysOf source permute s = (.ok k, t) ∧
      (source = .random → KeyPair.ofSeed permute k.privateKey = .ok k)) ∨
    ∃ e t, keysOf source permute s = (.error e, t) ∧ source = .random ∧
      Excused .ziggy permute s e := by
  cases source with
  | golden =>
    obtain ⟨k, hk, _⟩ := Golden.exists_keys
    exact .inl ⟨k, s, by rw [keysOf, hk], fun h => nomatch h⟩
  | random =>
    cases ho : KeyPair.ofSeed permute (Seed.random s).1 with
    | ok k =>
      obtain ⟨hk, _⟩ := KeyPair.ofSeed_eq_ok.mp ho
      exact .inl ⟨k, (Seed.random s).2, Prod.ext ho rfl, fun _ => hk ▸ ho⟩
    | error e =>
      refine .inr ⟨e, (Seed.random s).2, Prod.ext ho rfl, rfl, ?_⟩
      rcases KeyPair.ofSeed_eq_error.mp ho with hv | hv
      · exact .inr ⟨hv, Seed.secretPreimage_eq_error hv⟩
      · exact .inl hv

/-- Preparation gives consistent inputs, or fails for a reason outside of it. -/
theorem prepare_cases (scheme : Scheme) (source : InputSource) (zk : Bool) (permute : Permutation)
    (s : σ) :
    (∃ inputs, (prepare scheme source zk permute s).1 = .ok inputs ∧
      Consistent scheme source zk permute s inputs) ∨
    ∃ e, (prepare scheme source zk permute s).1 = .error e ∧ source = .random ∧
      Excused scheme permute s e := by
  cases scheme with
  | rescue =>
    -- The witness comes first; whatever number of queries follows, its length has a schedule.
    rcases chainOf_cases source permute s with ⟨p, t, hp, hw, hl, hout⟩ | ⟨e, t, he, hr, hin⟩
    · have hmin := le_drawQueries (show 0 < maxQueries + 1 - 1 by decide) t
      have hmax := drawQueries_le (show 0 < maxQueries + 1 - 1 by decide) t
      obtain ⟨parameters, hs, hf⟩ :=
        Schedule.exists_ofChainLength hw hl hmin (lt_of_le_of_lt hmax (by decide)) zk
      refine .inl ⟨_, ?_, p, t, _, _, _, hp, chainConsistent hw hl hout ⟨hmin, hmax⟩ hf hs⟩
      simp only [prepare, prepareRescue, hp, rescueParameters, hs]
      rfl
    · refine .inr ⟨e, ?_, hr, hin⟩
      simp only [prepare, prepareRescue, he]
  | ziggy =>
    rcases keysOf_cases source permute s with ⟨k, t, hk, hkeys⟩ | ⟨e, t, he, hr, hex⟩
    · have hmin := le_drawQueries (show 0 < maxQueries + 1 - ziggyMinQueries by decide) t
      have hmax := drawQueries_le (show 0 < maxQueries + 1 - ziggyMinQueries by decide) t
      obtain ⟨parameters, hs, hf⟩ :=
        Schedule.exists_ofTraceLength (lt_of_lt_of_le (by decide) hmin) hmax
      refine .inl ⟨_, ?_, _, _, keysConsistent hkeys ⟨hmin, hmax⟩ hf hs⟩
      simp only [prepare, prepareZiggy, hk, hs]
      rfl
    · refine .inr ⟨e, ?_, hr, hex⟩
      simp only [prepare, prepareZiggy, he]

/-- Whatever is drawn and whatever the permutation does, inputs that are prepared are consistent,
golden ones are always prepared without the permutation, and random ones unless the permutation or
the drawn seed fails. -/
theorem prepare_consistent (scheme : Scheme) (source : InputSource) (zk : Bool)
    (permute : Permutation) (s : σ) :
    (∀ inputs, (prepare scheme source zk permute s).1 = .ok inputs →
      Consistent scheme source zk permute s inputs) ∧
    (source = .golden → (∃ inputs, (prepare scheme source zk permute s).1 = .ok inputs) ∧
      ∀ other, prepare scheme source zk other s = prepare scheme source zk permute s) ∧
    ∀ e, (prepare scheme source zk permute s).1 = .error e →
      source = .random ∧ Excused scheme permute s e := by
  rcases prepare_cases scheme source zk permute s with ⟨inputs, hok, hc⟩ | ⟨e, herr, hr, hex⟩
  · refine ⟨?_, ?_, ?_⟩
    · intro other h
      exact Except.ok.inj (hok.symm.trans h) ▸ hc
    · rintro rfl
      exact ⟨⟨inputs, hok⟩, fun _ => by cases scheme <;> rfl⟩
    · intro e h
      rw [hok] at h
      contradiction
  · refine ⟨?_, ?_, ?_⟩
    · intro inputs h
      rw [herr] at h
      contradiction
    · intro hg
      rw [hr] at hg
      contradiction
    · intro f h
      exact Except.error.inj (herr.symm.trans h) ▸ ⟨hr, hex⟩

end ProverInputs
end ProofTrial
