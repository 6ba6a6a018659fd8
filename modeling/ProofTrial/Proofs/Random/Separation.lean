import ProofTrial.Keys
import ProofTrial.Proofs.Text.Bytes
import ProofTrial.Suite

/-! What is hashed for randomness. The fields around a scheme's name have fixed widths, so a message
is read in one way only, and the three purposes have messages of different lengths. Randomness is
then shared between two scenarios, keys or rounds through a collision of digests alone. -/
namespace ProofTrial

namespace Blake2s

/-- Two messages with one digest. -/
def Collide (a b : List UInt8) : Prop := a ≠ b ∧ digest a = digest b

theorem eq_or_collide {a b : List UInt8} (h : digest a = digest b) : a = b ∨ Collide a b := by
  by_cases hab : a = b
  · exact .inl hab
  · exact .inr ⟨hab, h⟩

end Blake2s

namespace Suite

/-- The name stands between two fields of eight bytes, so its length need not be written. -/
theorem sourceMessage_inj {seed seed' index index' : UInt64} {name name' : String} :
    sourceMessage seed.toNat name index.toNat = sourceMessage seed'.toNat name' index'.toNat ↔
      seed = seed' ∧ name = name' ∧ index = index' := by
  constructor
  · intro h
    obtain ⟨hseed, hrest⟩ := List.append_inj h (by simp)
    obtain ⟨hname, hindex⟩ := List.append_inj' hrest (by simp)
    exact ⟨(BigEndian.bytes_toNat_inj le_rfl).mp hseed, Hex.toUTF8_injective hname,
      (BigEndian.bytes_toNat_inj le_rfl).mp hindex⟩
  · rintro ⟨rfl, rfl, rfl⟩
    rfl

theorem length_sourceMessage (seed : Nat) (name : String) (index : Nat) :
    (sourceMessage seed name index).length = name.utf8ByteSize + 16 := by
  rw [sourceMessage, List.length_append, List.length_append, BigEndian.bytes_length,
    BigEndian.bytes_length, Hex.length_toUTF8]
  omega

/-- A source of its own for each scenario, up to a collision. -/
theorem eq_or_collide_of_scenarioSource {seed seed' index index' : UInt64} {name name' : String}
    (h : scenarioSource seed.toNat name index.toNat =
      scenarioSource seed'.toNat name' index'.toNat) :
    (seed = seed' ∧ name = name' ∧ index = index') ∨
      Blake2s.Collide (sourceMessage seed.toNat name index.toNat)
        (sourceMessage seed'.toNat name' index'.toNat) := by
  rw [scenarioSource, scenarioSource, ChaCha.ofKey, ChaCha.ofKey, ChaCha.mk.injEq] at h
  exact (Blake2s.eq_or_collide h.1).imp_left sourceMessage_inj.mp

end Suite

theorem Seed.chainMessage_inj {s t : Seed} : s.chainMessage = t.chainMessage ↔ s = t := by
  refine ⟨fun h => ?_, congrArg chainMessage⟩
  have hbytes := Vector.toList_inj.mp (List.append_cancel_left h)
  obtain ⟨s⟩ := s
  obtain ⟨t⟩ := t
  exact congrArg mk hbytes

theorem Seed.length_chainMessage (s : Seed) : s.chainMessage.length = 59 := by
  have htag : domainTag.length = 27 := by decide
  rw [chainMessage, List.length_append, htag, Vector.length_toList]

namespace Sampler

theorem roundMessage_inj {d d' : Digest} {n n' : UInt64} :
    roundMessage d n.toNat = roundMessage d' n'.toNat ↔ d = d' ∧ n = n' := by
  constructor
  · intro h
    obtain ⟨hdigest, hnumber⟩ := List.append_inj' h (by simp)
    exact ⟨Vector.toList_inj.mp hdigest, (BigEndian.bytes_toNat_inj (by decide)).mp hnumber⟩
  · rintro ⟨rfl, rfl⟩
    rfl

theorem length_roundMessage (d : Digest) (n : Nat) : (roundMessage d n).length = 64 := by
  rw [roundMessage, List.length_append, Vector.length_toList, BigEndian.bytes_length]

/-- Four words of eight bytes are all of a digest. -/
theorem digestWords_injective {d e : Digest} (h : digestWords d = digestWords e) : d = e := by
  have hword : ∀ i < 4, (d.toList.drop (8 * i)).take 8 = (e.toList.drop (8 * i)).take 8 := by
    intro i hi
    have hat := congrArg (fun ws => ws[i]?) h
    simp only [digestWords, wordsPerRound, List.getElem?_map, List.getElem?_range hi,
      Option.map_some, Option.some.injEq] at hat
    refine (BigEndian.value_inj ?_).mp hat
    rw [List.length_take, List.length_take, List.length_drop, List.length_drop,
      Vector.length_toList, Vector.length_toList]
  apply Vector.toList_inj.mp
  apply List.ext_getElem?
  intro j
  by_cases hj : j < 32
  · have hlt : j % 8 < 8 := Nat.mod_lt j (by decide)
    have hat := congrArg (fun bs => bs[j % 8]?) (hword (j / 8) (by omega))
    simp only [List.getElem?_take_of_lt hlt, List.getElem?_drop, Nat.div_add_mod] at hat
    exact hat
  · rw [List.getElem?_eq_none (by simpa using hj), List.getElem?_eq_none (by simpa using hj)]

end Sampler

theorem Scheme.name_injective {a b : Scheme} (h : a.name = b.name) : a = b := by
  cases a <;> cases b <;> simp [name] at h ⊢

theorem Scheme.name_size_le (scheme : Scheme) : scheme.name.utf8ByteSize ≤ 6 := by
  cases scheme <;> decide

/-- What randomness is made for: a scenario of a scheme, a private key or a round of a sampler. -/
inductive Purpose where
  | scenario (seed : UInt64) (scheme : Scheme) (index : UInt64)
  | key (seed : Seed)
  | round (seedDigest : Digest) (number : UInt64)

namespace Purpose

/-- What is hashed. -/
def message : Purpose → List UInt8
  | scenario seed scheme index => Suite.sourceMessage seed.toNat scheme.name index.toNat
  | key seed => seed.chainMessage
  | round seedDigest number => Sampler.roundMessage seedDigest number.toNat

/-- What comes of it, in words of eight bytes: the key of the source, the digest of the private key
or the candidates of the round. -/
def words : Purpose → List Nat
  | scenario seed scheme index =>
    Sampler.digestWords (Suite.scenarioSource seed.toNat scheme.name index.toNat).key
  | key seed => Sampler.digestWords seed.chainDigest
  | round seedDigest number => Sampler.roundWords seedDigest number.toNat

theorem words_eq (p : Purpose) : p.words = Sampler.digestWords (Blake2s.digest p.message) := by
  cases p <;> rfl

section Lengths

variable (seed index number : UInt64) (scheme : Scheme) (s : Seed) (d : Digest)

theorem length_scenario_lt : (scenario seed scheme index).message.length < 59 := by
  have hname := scheme.name_size_le
  rw [message, Suite.length_sourceMessage]
  omega

theorem length_key : (key s).message.length = 59 := s.length_chainMessage

theorem length_round : (round d number).message.length = 64 := Sampler.length_roundMessage _ _

end Lengths

/-- Lengths tell the purposes apart, and within a purpose no two messages are the same. -/
theorem message_inj {p q : Purpose} : p.message = q.message ↔ p = q := by
  refine ⟨fun h => ?_, congrArg message⟩
  have hlength := congrArg List.length h
  cases p with
  | scenario seed scheme index =>
    have hp := length_scenario_lt seed index scheme
    cases q with
    | scenario seed' scheme' index' =>
      obtain ⟨rfl, hname, rfl⟩ := Suite.sourceMessage_inj.mp h
      rw [Scheme.name_injective hname]
    | key t => rw [length_key] at hlength; omega
    | round e m => rw [length_round] at hlength; omega
  | key s =>
    rw [length_key] at hlength
    cases q with
    | scenario seed scheme index => exact absurd hlength (length_scenario_lt seed index scheme).ne'
    | key t => rw [Seed.chainMessage_inj.mp h]
    | round e m => rw [length_round] at hlength; contradiction
  | round d n =>
    rw [length_round] at hlength
    cases q with
    | scenario seed scheme index =>
      have hq := length_scenario_lt seed index scheme
      omega
    | key t => rw [length_key] at hlength; contradiction
    | round e m =>
      obtain ⟨rfl, rfl⟩ := Sampler.roundMessage_inj.mp h
      rfl

theorem eq_or_collide_of_words {p q : Purpose} (h : p.words = q.words) :
    p = q ∨ Blake2s.Collide p.message q.message := by
  rw [words_eq, words_eq] at h
  exact (Blake2s.eq_or_collide (Sampler.digestWords_injective h)).imp_left message_inj.mp

/-- What is hashed for a scenario tells its master seed, the name of its scheme, whatever text that
is, and its place. Under the names of the schemes no two purposes hash the same, so scenarios, keys
and rounds share randomness only where two messages collide. -/
theorem purposes_share_only_collisions :
    (∀ (seed seed' : UInt64) (name name' : String) (index index' : UInt64),
      (Suite.sourceMessage seed.toNat name index.toNat =
          Suite.sourceMessage seed'.toNat name' index'.toNat ↔
        seed = seed' ∧ name = name' ∧ index = index') ∧
      (Suite.scenarioSource seed.toNat name index.toNat =
          Suite.scenarioSource seed'.toNat name' index'.toNat →
        (seed = seed' ∧ name = name' ∧ index = index') ∨
          Blake2s.Collide (Suite.sourceMessage seed.toNat name index.toNat)
            (Suite.sourceMessage seed'.toNat name' index'.toNat))) ∧
    ∀ p q : Purpose, (p.message = q.message ↔ p = q) ∧
      (p.words = q.words → p = q ∨ Blake2s.Collide p.message q.message) :=
  ⟨fun _ _ _ _ _ _ => ⟨Suite.sourceMessage_inj, Suite.eq_or_collide_of_scenarioSource⟩,
    fun _ _ => ⟨message_inj, eq_or_collide_of_words⟩⟩

end Purpose

end ProofTrial
