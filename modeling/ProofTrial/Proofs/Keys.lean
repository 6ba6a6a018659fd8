import ProofTrial.Keys
import ProofTrial.Proofs.Field.Sampler
import ProofTrial.Proofs.Json.Value

/-! Keys. The secret preimage of a seed is made of the first eight accepted words of its stream, and
a pair of keys is that seed with the permutation of its preimage. -/
namespace ProofTrial

namespace Seed

/-- The elements that the sampler collects for the preimage. -/
def taken (s : Seed) : Except Error (List Felt) :=
  ((Sampler.ofDigest s.chainDigest).collect preimageLength maxSamplerRounds).1

theorem map_secretPreimage (s : Seed) : s.secretPreimage.map Vector.toList = s.taken := by
  unfold secretPreimage taken
  split
  next xs h => exact h.symm
  next e h => exact h.symm

/-- The words below the prime among all candidates that the rounds give. -/
def words (s : Seed) : List Nat := Sampler.acceptedWords s.chainDigest 4096

/-- The elements accepted from all candidates. -/
def stream (s : Seed) : List Felt := Sampler.accepted s.chainDigest 0 4096

theorem unscales_stream (s : Seed) : List.Forall₂ Sampler.Unscales s.stream s.words :=
  Sampler.unscales_accepted s.chainDigest 4096

theorem taken_eq (s : Seed) :
    s.taken = if 8 ≤ s.words.length then .ok (s.stream.take 8)
      else .error (.internal (.samplerExhausted s.words.length 8 1024)) := by
  rw [← s.unscales_stream.length_eq]
  exact Sampler.collect_ofDigest s.chainDigest 8 1024

/-- Eight accepted words make the preimage, in their order and without their scale. -/
theorem secretPreimage_of_words {s : Seed} (h : 8 ≤ s.words.length) :
    ∃ v, s.secretPreimage = .ok v ∧ List.Forall₂ Sampler.Unscales v.toList (s.words.take 8) := by
  have hmap := s.map_secretPreimage
  rw [taken_eq, if_pos h] at hmap
  obtain ⟨v, hv, hl⟩ := Json.except_map_eq_ok.mp hmap
  refine ⟨v, hv, ?_⟩
  rw [hl]
  exact List.forall₂_take 8 s.unscales_stream

theorem secretPreimage_of_short {s : Seed} (h : ¬ 8 ≤ s.words.length) :
    s.secretPreimage = .error (.internal (.samplerExhausted s.words.length 8 1024)) := by
  have hmap := s.map_secretPreimage
  rw [taken_eq, if_neg h] at hmap
  exact Json.except_map_eq_error.mp hmap

theorem secretPreimage_eq_error {s : Seed} {e : Error} (h : s.secretPreimage = .error e) :
    ∃ f, e = .internal f := by
  by_cases hw : 8 ≤ s.words.length
  · obtain ⟨v, hv, _⟩ := secretPreimage_of_words hw
    exact nomatch hv.symm.trans h
  · exact ⟨_, Except.error.inj (h.symm.trans (secretPreimage_of_short hw))⟩

end Seed

namespace KeyPair

theorem ofSeed_eq_ok {permute : Permutation} {seed : Seed} {keys : KeyPair} :
    ofSeed permute seed = .ok keys ↔
      keys.privateKey = seed ∧
        ∃ v, seed.secretPreimage = .ok v ∧ permute v = .ok keys.publicKey := by
  obtain ⟨privateKey, publicKey⟩ := keys
  unfold ofSeed
  cases hv : seed.secretPreimage with
  | error e => simp
  | ok v =>
    dsimp only
    rw [Json.except_map_eq_ok]
    constructor
    · rintro ⟨row, hrow, he⟩
      obtain ⟨rfl, rfl⟩ := KeyPair.mk.inj he
      exact ⟨rfl, v, rfl, hrow⟩
    · rintro ⟨rfl, w, hw, hrow⟩
      exact ⟨publicKey, Except.ok.inj hw ▸ hrow, rfl⟩

theorem ofSeed_eq_error {permute : Permutation} {seed : Seed} {e : Error} :
    ofSeed permute seed = .error e ↔ seed.secretPreimage = .error e ∨
      ∃ v, seed.secretPreimage = .ok v ∧ permute v = .error e := by
  unfold ofSeed
  cases hv : seed.secretPreimage with
  | error f => simp
  | ok v => simp [Json.except_map_eq_error]

/-- Keys come from the first eight accepted words of the seed, given or drawn, and from nothing
else. -/
theorem derive_of_words {σ : Type} [RandomSource σ] (seed : Seed) (permute : Permutation) (s : σ) :
    (8 ≤ seed.words.length → ∃ v, seed.secretPreimage = .ok v ∧
      List.Forall₂ Sampler.Unscales v.toList (seed.words.take 8)) ∧
    (¬ 8 ≤ seed.words.length → ∃ f, seed.secretPreimage = .error (.internal f)) ∧
    (derive (some seed) permute s).2 = s ∧
    (∀ keys, (derive (some seed) permute s).1 = .ok keys ↔ keys.privateKey = seed ∧
      ∃ v, seed.secretPreimage = .ok v ∧ permute v = .ok keys.publicKey) ∧
    (∀ e, (derive (some seed) permute s).1 = .error e ↔ seed.secretPreimage = .error e ∨
      ∃ v, seed.secretPreimage = .ok v ∧ permute v = .error e) ∧
    derive none permute s =
      derive (some ⟨(RandomSource.bytes 32 s).1⟩) permute (RandomSource.bytes 32 s).2 :=
  ⟨Seed.secretPreimage_of_words, fun h => ⟨_, Seed.secretPreimage_of_short h⟩, rfl,
    fun _ => ofSeed_eq_ok, fun _ => ofSeed_eq_error, rfl⟩

end KeyPair
end ProofTrial
