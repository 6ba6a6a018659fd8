/-!
Sources of random words. A source is a value: a draw gives the word and the source after it.
-/
namespace ProofTrial

class RandomSource (σ : Type) where
  word32 : σ → UInt32 × σ
  word64 : σ → UInt64 × σ
  bytes : (n : Nat) → σ → Vector UInt8 n × σ

instance [RandomSource α] [RandomSource β] : RandomSource (α ⊕ β) where
  word32
    | .inl s => let (x, s) := RandomSource.word32 s; (x, .inl s)
    | .inr s => let (x, s) := RandomSource.word32 s; (x, .inr s)
  word64
    | .inl s => let (x, s) := RandomSource.word64 s; (x, .inl s)
    | .inr s => let (x, s) := RandomSource.word64 s; (x, .inr s)
  bytes n
    | .inl s => let (x, s) := RandomSource.bytes n s; (x, .inl s)
    | .inr s => let (x, s) := RandomSource.bytes n s; (x, .inr s)

end ProofTrial
