import ProofTrial.Proofs.Parameters
import ProofTrial.Proofs.Witness
import ProofTrial.Trial.Inputs

/-! What prepared inputs are like. Their parameters are numbers of 32 bits with at least one query,
and their claim and their private input come from one witness or one pair of keys. -/
namespace ProofTrial

/-- A schedule that is made has the wanted queries and small numbers everywhere else. -/
theorem Schedule.ofTraceLength_fits {t queries : Nat} {zk : Bool} {p : ProverParameters}
    (h : ofTraceLength t queries zk = .ok p) (hq : queries < 2 ^ 32) :
    p.Fits ∧ p.fri.queries = queries := by
  unfold ofTraceLength at h
  generalize (if zk then slackness t queries else 1) * t = padded at h
  split_ifs at h with ht hz
  dsimp only at h
  split_ifs at h
  obtain rfl := Except.ok.inj h
  have hsmall : logCosets < 2 ^ 32 ∧ lastLayerDegreeBound < 2 ^ 32 ∧ proofOfWorkBits < 2 ^ 32 := by
    decide
  refine ⟨⟨hsmall.1, ⟨hsmall.2.1, hq, ?_, hsmall.2.2⟩, Nat.pos_of_ne_zero hz⟩, rfl⟩
  intro n hn
  rcases List.mem_cons.mp hn with rfl | hn
  · decide
  · rw [List.eq_of_mem_replicate hn]
    decide

theorem Schedule.ofChainLength_fits {n height hashes queries : Nat} {zk : Bool}
    {p : ProverParameters} (h : ofChainLength n height hashes queries zk = .ok p)
    (hq : queries < 2 ^ 32) : p.Fits ∧ p.fri.queries = queries := by
  unfold ofChainLength at h
  cases ht : traceLength n height hashes with
  | error e => simp [ht, bind, Except.bind] at h
  | ok t =>
    simp only [ht, bind, Except.bind] at h
    exact ofTraceLength_fits h hq

namespace Golden

/-- The golden chain reads, and is written with the texts it was read from. -/
theorem exists_chain : ∃ p, chain = .ok p ∧
    p.witness.toHexRows = [evenWords, oddWords, evenWords, oddWords] ∧
      p.output.toHex = outputWords ∧ p.witness.Whole ∧ p.witness.chainLength = 3 := by
  have hread : chain.map (fun p => (p.witness.toHexRows, p.output.toHex, p.witness.chainLength)) =
      .ok ([evenWords, oddWords, evenWords, oddWords], outputWords, 3) := by decide
  obtain ⟨p, hp, he⟩ := Json.except_map_eq_ok.mp hread
  obtain ⟨hrows, hout, hlength⟩ : _ ∧ _ ∧ _ := by simpa only [Prod.mk.injEq] using he
  exact ⟨p, hp, hrows, hout, ⟨by rw [hlength]; decide, by rw [hlength]; decide⟩, hlength⟩

theorem exists_keys : ∃ k, keys = .ok k ∧ k.privateKey.toHex = privateKeyText ∧
    k.publicKey.toHex = publicKeyWords := by
  have hread : keys.map (fun k => (k.privateKey.toHex, k.publicKey.toHex)) =
      .ok (privateKeyText, publicKeyWords) := by decide
  obtain ⟨k, hk, he⟩ := Json.except_map_eq_ok.mp hread
  exact ⟨k, hk, Prod.mk.inj he⟩

end Golden

namespace ProverInputs

variable {σ : Type} [RandomSource σ]

theorem drawQueries_le {least : Nat} (h : 0 < maxQueries + 1 - least) (s : σ) :
    (drawQueries least h s).1 ≤ maxQueries := by
  have hi := (Random.below32 (maxQueries + 1 - least) h s).1.isLt
  simp only [drawQueries]
  omega

/-- A chain is taken or drawn whole, unless the permutation fails on a drawn one. -/
theorem chainOf_cases (source : InputSource) (permute : Permutation) (s : σ) :
    (∃ p t, chainOf source permute s = (.ok p, t) ∧ p.witness.Whole ∧
      p.witness.chainLength ≤ Witness.maxRandomLength ∧
      (source = .random → permute.hashChain p.witness.rows = .ok p.output)) ∨
    ∃ e t, chainOf source permute s = (.error e, t) ∧ source = .random ∧
      permute.FailsIn (Witness.drawn s).1.rows e := by
  cases source with
  | golden =>
    obtain ⟨p, hp, _, _, hwhole, hlength⟩ := Golden.exists_chain
    refine .inl ⟨p, s, by rw [chainOf, hp], hwhole, ?_, fun h => nomatch h⟩
    rw [hlength]
    decide
  | random =>
    obtain ⟨hwhole, hle⟩ := Witness.whole_drawn s
    cases ho : permute.hashChain (Witness.drawn s).1.rows with
    | ok output =>
      have hproof : chainOf .random permute s =
          (.ok ⟨(Witness.drawn s).1, output⟩, (Witness.drawn s).2) := by
        simp only [chainOf, ChainProof.ofDrawn, ChainProof.ofWitness, ho]
        rfl
      exact .inl ⟨_, _, hproof, hwhole, hle, fun _ => ho⟩
    | error e =>
      have hfailed : chainOf .random permute s = (.error e, (Witness.drawn s).2) := by
        simp only [chainOf, ChainProof.ofDrawn, ChainProof.ofWitness, ho]
        rfl
      exact .inr ⟨e, _, hfailed, rfl,
        Permutation.hashChain_eq_error hwhole.rows_ne_nil ho⟩

theorem chainLength_chainOf {source : InputSource} {permute : Permutation} {s t : σ}
    {p : ChainProof} (h : chainOf source permute s = (.ok p, t)) :
    p.witness.chainLength ≤ Witness.maxRandomLength := by
  rcases chainOf_cases source permute s with ⟨q, u, hq, _, hl, _⟩ | ⟨e, u, he, _⟩
  · obtain ⟨hpq, _⟩ := Prod.mk.inj (hq.symm.trans h)
    exact Except.ok.inj hpq ▸ hl
  · obtain ⟨hpe, _⟩ := Prod.mk.inj (he.symm.trans h)
    contradiction

/-- What a prover of chains is given. -/
theorem prepareRescue_eq_ok {source : InputSource} {zk : Bool} {permute : Permutation} {s t : σ}
    {inputs : ProverInputs} (h : prepareRescue source zk permute s = (.ok inputs, t)) :
    inputs.parameters.Fits ∧ inputs.config = .standard ∧
      ∃ p : ChainProof, p.witness.chainLength ≤ Witness.maxRandomLength ∧
        inputs.publicInput = (rescueClaim p).toValue ∧ inputs.privateInput = p.privateInput := by
  unfold prepareRescue at h
  cases hp : chainOf source permute s with
  | mk r s =>
    cases r with
    | error e => simp [hp] at h
    | ok p =>
      simp only [hp, Prod.mk.injEq] at h
      have hq := drawQueries_le (show 0 < maxQueries + 1 - 1 by decide) s
      obtain ⟨parameters, hs, rfl⟩ := Json.except_map_eq_ok.mp h.1
      have hlt : (drawQueries 1 (by decide) s).1 < 2 ^ 32 := lt_of_le_of_lt hq (by decide)
      exact ⟨(Schedule.ofChainLength_fits hs hlt).1, rfl, p, chainLength_chainOf hp, rfl, rfl⟩

/-- What a prover of signatures is given. -/
theorem prepareZiggy_eq_ok {source : InputSource} {permute : Permutation} {s t : σ}
    {inputs : ProverInputs} (h : prepareZiggy source permute s = (.ok inputs, t)) :
    inputs.parameters.Fits ∧ inputs.config = .standard ∧
      ∃ k : KeyPair, inputs.publicInput = (ziggyClaim scenarioMessage k).toValue ∧
        inputs.privateInput = k.privateInput := by
  unfold prepareZiggy at h
  cases hk : keysOf source permute s with
  | mk r s =>
    cases r with
    | error e => simp [hk] at h
    | ok k =>
      simp only [hk, Prod.mk.injEq] at h
      have hq := drawQueries_le (show 0 < maxQueries + 1 - ziggyMinQueries by decide) s
      obtain ⟨parameters, hs, rfl⟩ := Json.except_map_eq_ok.mp h.1
      have hlt : (drawQueries ziggyMinQueries (by decide) s).1 < 2 ^ 32 :=
        lt_of_le_of_lt hq (by decide)
      exact ⟨(Schedule.ofTraceLength_fits hs hlt).1, rfl, k, rfl, rfl⟩

end ProverInputs
end ProofTrial
