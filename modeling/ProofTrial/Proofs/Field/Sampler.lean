import ProofTrial.Field.Sampler
import ProofTrial.Proofs.Field.Montgomery
import Mathlib.Data.List.Forall2

/-! The stream of candidates behind a sampler. After any number of pulls a sampler stands at a
position of the stream, the next pull answers for that position, and a bounded take hands out the
first elements accepted from there on. -/
namespace ProofTrial.Sampler

/-- The candidate word at a position: four words for each hashed round number, cut to the bits of
the prime. -/
def word (seedDigest : Digest) (position : Nat) : Nat :=
  BigEndian.value (((Blake2s.digest (seedDigest.toList ++
    BigEndian.bytes 32 (position / 4))).toList.drop (8 * (position % 4))).take 8) % 2 ^ 62

/-- The words below the prime among the first `n`. -/
def acceptedWords (seedDigest : Digest) (n : Nat) : List Nat :=
  ((List.range n).map (word seedDigest)).filter (· < Field.prime)

/-- The element whose scaled value is the word. -/
def Unscales (x : Felt) (word : Nat) : Prop := x.val * 2 ^ 64 % Field.prime = word

theorem length_roundWords (d : Digest) (round : Nat) : (roundWords d round).length = 4 := by
  simp [roundWords, digestWords, wordsPerRound]

theorem accept?_eq (w : Nat) :
    accept? w = if w % 2 ^ 62 < Field.prime then
      Felt.ofNat? (Field.fromMontgomery (w % 2 ^ 62)) else none := by
  rw [accept?, Field.candidateMask, Field.primeBits, Nat.and_two_pow_sub_one_eq_mod]

theorem candidate_eq (d : Digest) (p : Nat) :
    candidate d p = if word d p < Field.prime then
      Felt.ofNat? (Field.fromMontgomery (word d p)) else none := by
  have hlt : p % 4 < 4 := Nat.mod_lt p (by decide)
  have hw : (roundWords d (p / 4))[p % 4]? = some (BigEndian.value
      (((Blake2s.digest (roundMessage d (p / 4))).toList.drop (8 * (p % 4))).take 8)) := by
    simp [roundWords, digestWords, wordsPerRound, hlt]
  rw [candidate, wordsPerRound, hw, Option.getD_some, accept?_eq]
  rfl

theorem candidate_eq_none {d : Digest} {p : Nat} (h : ¬ word d p < Field.prime) :
    candidate d p = none := by
  rw [candidate_eq, if_neg h]

theorem candidate_eq_some {d : Digest} {p : Nat} (h : word d p < Field.prime) :
    ∃ x, candidate d p = some x ∧ Unscales x (word d p) := by
  have hx := Field.fromMontgomery_lt_prime (word d p)
  refine ⟨⟨_, hx⟩, ?_, Field.fromMontgomery_mul_mod h⟩
  rw [candidate_eq, if_pos h, Felt.ofNat?, dif_pos hx]

/-- The answer for a candidate word: below the prime the one element whose scaled value it is, and
none from the prime on. -/
def Decodes (word : Nat) : Option Felt → Prop
  | none => Field.prime ≤ word
  | some x => word < Field.prime ∧ ∀ y, Unscales y word ↔ y = x

theorem Unscales.unique {x y : Felt} {w : Nat} (hx : Unscales x w) (hy : Unscales y w) :
    x = y := by
  have hscaled : x.val * 2 ^ 64 ≡ y.val * 2 ^ 64 [MOD Field.prime] := Eq.trans hx (Eq.symm hy)
  have hval := Nat.ModEq.cancel_right_of_coprime (by decide +kernel) hscaled
  obtain ⟨x, hxlt⟩ := x
  obtain ⟨y, hylt⟩ := y
  obtain rfl : x = y := Nat.ModEq.eq_of_lt_of_lt hval hxlt hylt
  rfl

theorem decodes_candidate (d : Digest) (p : Nat) : Decodes (word d p) (candidate d p) := by
  by_cases h : word d p < Field.prime
  · obtain ⟨x, hx, hs⟩ := candidate_eq_some h
    rw [hx]
    exact ⟨h, fun y => ⟨fun hy => hy.unique hs, fun hy => hy ▸ hs⟩⟩
  · rw [candidate_eq_none h]
    exact Nat.not_lt.mp h

/-- The word that the next pull looks at, cut to the bits of the prime. -/
def nextWord (s : Sampler) : Nat := s.refill.pending.headD 0 % 2 ^ 62

theorem pull_eq (s : Sampler) : s.pull.1 = if s.nextWord < Field.prime then
    Felt.ofNat? (Field.fromMontgomery s.nextWord) else none :=
  accept?_eq _

/-- Only words at or above the prime are rejected: taking the scale off leaves an element. -/
theorem pull_eq_none {s : Sampler} : s.pull.1 = none ↔ Field.prime ≤ s.nextWord := by
  rw [pull_eq, Felt.ofNat?, dif_pos (Field.fromMontgomery_lt_prime _)]
  split_ifs with h <;> simpa using h

theorem pull_eq_some {s : Sampler} {x : Felt} :
    s.pull.1 = some x ↔ s.nextWord < Field.prime ∧ x.val = Field.fromMontgomery s.nextWord := by
  obtain ⟨v, hv⟩ := x
  rw [pull_eq, Felt.ofNat?, dif_pos (Field.fromMontgomery_lt_prime _)]
  split_ifs with h
  · simp [h, eq_comm]
  · simp [h]

/-- Taking the scale off is exact for every residue and one to one below the prime, where putting
the scale on undoes it. So a pull rejects the words at or above the prime and no others, and words
that give the same element are the same. -/
theorem fromMontgomery_lossless :
    (∀ residue, Field.fromMontgomery residue < Field.prime ∧
      Field.fromMontgomery residue * 2 ^ 64 ≡ residue [MOD Field.prime]) ∧
    Set.BijOn Field.fromMontgomery (Set.Iio Field.prime) (Set.Iio Field.prime) ∧
    Set.InvOn (fun x => x * Field.montgomeryR % Field.prime) Field.fromMontgomery
      (Set.Iio Field.prime) (Set.Iio Field.prime) ∧
    (∀ s : Sampler, s.pull.1 = none ↔ Field.prime ≤ s.nextWord) ∧
    ∀ (s t : Sampler) (x : Felt), s.pull.1 = some x → t.pull.1 = some x →
      s.nextWord = t.nextWord := by
  refine ⟨fun residue => ⟨Field.fromMontgomery_lt_prime residue, Field.fromMontgomery_mul residue⟩,
    Field.fromMontgomery_bijOn, Field.fromMontgomery_invOn, fun s => pull_eq_none, ?_⟩
  intro s t x hs ht
  obtain ⟨hslt, hsx⟩ := pull_eq_some.mp hs
  obtain ⟨htlt, htx⟩ := pull_eq_some.mp ht
  exact Field.fromMontgomery_bijOn.injOn hslt htlt (hsx.symm.trans htx)

/-- The accepted elements are those of the accepted words, in the same order. -/
theorem filterMap_candidate (d : Digest) (positions : List Nat) :
    List.Forall₂ Unscales (positions.filterMap (candidate d))
      ((positions.map (word d)).filter (· < Field.prime)) := by
  induction positions with
  | nil => exact .nil
  | cons p ps ih =>
    rw [List.map_cons]
    by_cases h : word d p < Field.prime
    · obtain ⟨x, hx, hs⟩ := candidate_eq_some h
      rw [List.filterMap_cons_some hx, List.filter_cons_of_pos (by simpa using h)]
      exact .cons hs ih
    · rw [List.filterMap_cons_none (candidate_eq_none h),
        List.filter_cons_of_neg (by simpa using h)]
      exact ih

/-- A sampler that has handed out the candidates before a position. -/
def atPosition (d : Digest) (p : Nat) : Sampler where
  seedDigest := d
  rounds := (p + 3) / 4
  pending := if p % 4 = 0 then [] else (roundWords d (p / 4)).drop (p % 4)

theorem ofDigest_eq (d : Digest) : ofDigest d = atPosition d 0 := rfl

/-- The words that are pending once a round has been started. -/
theorem pending_refill (d : Digest) (p : Nat) :
    (atPosition d p).refill =
      ⟨d, p / 4 + 1, (roundWords d (p / 4)).drop (p % 4)⟩ := by
  have hlen := length_roundWords d (p / 4)
  have hlt : p % 4 < 4 := Nat.mod_lt p (by decide)
  by_cases hp : p % 4 = 0
  · have hr : (p + 3) / 4 = p / 4 := by omega
    simp [refill, atPosition, hp, hr]
  · have hr : (p + 3) / 4 = p / 4 + 1 := by omega
    have hne : ((roundWords d (p / 4)).drop (p % 4)).isEmpty = false := by
      simp [List.drop_eq_nil_iff, hlen, hlt]
    simp [refill, atPosition, hp, hr, hne]

/-- A pull answers for its position and moves on by one. -/
theorem pull_atPosition (d : Digest) (p : Nat) :
    (atPosition d p).pull = (candidate d p, atPosition d (p + 1)) := by
  have hlen := length_roundWords d (p / 4)
  have hlt : p % 4 < 4 := Nat.mod_lt p (by decide)
  have hhead : ((roundWords d (p / 4)).drop (p % 4)).headD 0 =
      ((roundWords d (p / 4))[p % 4]?).getD 0 := by
    rw [List.headD_eq_head?_getD, List.head?_drop]
  have hnext : atPosition d (p + 1) =
      ⟨d, p / 4 + 1, ((roundWords d (p / 4)).drop (p % 4)).tail⟩ := by
    have hr : (p + 1 + 3) / 4 = p / 4 + 1 := by omega
    rw [List.tail_drop, atPosition, hr]
    -- After its last word a round leaves nothing pending, which is how the next one finds it.
    by_cases hp : p % 4 = 3
    · have hz : (p + 1) % 4 = 0 := by omega
      have hnil : (roundWords d (p / 4)).drop (p % 4 + 1) = [] := by
        rw [List.drop_eq_nil_iff]
        omega
      rw [if_pos hz, hnil]
    · have hm : (p + 1) % 4 = p % 4 + 1 := by omega
      have hq : (p + 1) / 4 = p / 4 := by omega
      rw [if_neg (by omega), hm, hq]
  rw [pull, pending_refill, hnext, candidate, wordsPerRound, ← hhead]

/-- The elements that `n` pulls accept from a position on. -/
def accepted (d : Digest) (p n : Nat) : List Felt := (List.range' p n).filterMap (candidate d)

/-- From the start of the stream on these are the elements of the accepted words. -/
theorem unscales_accepted (d : Digest) (n : Nat) :
    List.Forall₂ Unscales (accepted d 0 n) (acceptedWords d n) := by
  rw [accepted, acceptedWords, List.range_eq_range']
  exact filterMap_candidate d (List.range' 0 n)

theorem accepted_succ_of_none {d : Digest} {p : Nat} (h : candidate d p = none) (n : Nat) :
    accepted d p (n + 1) = accepted d (p + 1) n := by
  rw [accepted, List.range'_succ, List.filterMap_cons_none h]
  rfl

theorem accepted_succ_of_some {d : Digest} {p : Nat} {x : Felt} (h : candidate d p = some x)
    (n : Nat) : accepted d p (n + 1) = x :: accepted d (p + 1) n := by
  rw [accepted, List.range'_succ, List.filterMap_cons_some h]
  rfl

theorem accepted_add (d : Digest) (p m n : Nat) :
    accepted d p (m + n) = accepted d p m ++ accepted d (p + m) n := by
  rw [accepted, ← List.range'_append_1, List.filterMap_append]
  rfl

theorem accepted_eq_append (d : Digest) (p : Nat) {m n : Nat} (h : m ≤ n) :
    accepted d p n = accepted d p m ++ accepted d (p + m) (n - m) := by
  rw [← accepted_add, Nat.add_sub_cancel' h]

theorem takeWithin_of_none {s t : Sampler} (h : s.pull = (none, t)) (budget found wanted : Nat) :
    takeWithin (budget + 1) found (wanted + 1) s = takeWithin budget found (wanted + 1) t := by
  rw [takeWithin, h]

theorem takeWithin_of_some {s t : Sampler} {x : Felt} (h : s.pull = (some x, t))
    (budget found wanted : Nat) :
    takeWithin (budget + 1) found (wanted + 1) s =
      ((takeWithin budget (found + 1) wanted t).1.map (x :: ·),
        (takeWithin budget (found + 1) wanted t).2) := by
  rw [takeWithin, h]
  dsimp only
  generalize takeWithin budget (found + 1) wanted t = r
  obtain ⟨r, u⟩ := r
  cases r <;> rfl

theorem allowance_eq_zero {s : Sampler} {maxRounds : Nat} :
    s.allowance maxRounds = 0 ↔ s.pending = [] ∧ maxRounds ≤ s.rounds := by
  have hrounds : 4 * (maxRounds - s.rounds) = 0 ↔ maxRounds ≤ s.rounds := by omega
  rw [allowance, wordsPerRound, Nat.add_eq_zero_iff, List.length_eq_zero_iff, hrounds]

theorem allowance_pull {s : Sampler} {maxRounds : Nat} (h : s.allowance maxRounds ≠ 0) :
    s.allowance maxRounds = s.pull.2.allowance maxRounds + 1 := by
  obtain ⟨d, rounds, pending⟩ := s
  cases pending with
  | nil =>
    have hlen := length_roundWords d rounds
    simp only [allowance, pull, refill, wordsPerRound, List.isEmpty_nil, ↓reduceIte,
      List.length_nil, List.length_tail, hlen] at h ⊢
    omega
  | cons w ws =>
    simp only [allowance, pull, refill, List.isEmpty_cons, Bool.false_eq_true, ↓reduceIte,
      List.length_cons, List.tail_cons]
    omega

/-- The rounds that were started are used up, also where they are more than a take may start. -/
theorem allowance_atPosition (d : Digest) (p maxRounds : Nat) :
    (atPosition d p).allowance maxRounds = 4 * max ((p + 3) / 4) maxRounds - p := by
  have hlen := length_roundWords d (p / 4)
  simp only [allowance, atPosition, wordsPerRound]
  split_ifs with hp
  · rw [List.length_nil]
    omega
  · rw [List.length_drop, hlen]
    omega

/-- How a bounded take from a position ends, and after how many candidates: right after the last
element that is wanted, or with the budget spent on fewer. -/
inductive Takes (d : Digest) (p budget wanted : Nat) : Nat → Except Nat (List Felt) → Prop where
  | enough {n : Nat} (inside : n ≤ budget) (found : (accepted d p n).length = wanted)
      (least : ∀ m < n, (accepted d p m).length < wanted) :
      Takes d p budget wanted n (.ok (accepted d p n))
  | spent (short : (accepted d p budget).length < wanted) :
      Takes d p budget wanted budget (.error (accepted d p budget).length)

namespace Takes

variable {d : Digest} {p budget wanted n : Nat} {r : Except Nat (List Felt)}

theorem zero (d : Digest) (p budget : Nat) : Takes d p budget 0 0 (.ok []) :=
  .enough (Nat.zero_le budget) rfl fun _ hm => absurd hm (Nat.not_lt_zero _)

/-- A candidate that is rejected is consumed. -/
theorem skip (hc : candidate d p = none) (h : Takes d (p + 1) budget (wanted + 1) n r) :
    Takes d p (budget + 1) (wanted + 1) (n + 1) r := by
  cases h with
  | enough inside found least =>
    rw [← accepted_succ_of_none hc] at found ⊢
    refine .enough (Nat.succ_le_succ inside) found fun m hm => ?_
    cases m with
    | zero => exact Nat.succ_pos wanted
    | succ m =>
      rw [accepted_succ_of_none hc]
      exact least m (Nat.lt_of_succ_lt_succ hm)
  | spent short =>
    rw [← accepted_succ_of_none hc] at short ⊢
    exact .spent short

/-- A candidate that is accepted is the next element, or counts among those that were too few. -/
theorem keep {x : Felt} (hc : candidate d p = some x) (h : Takes d (p + 1) budget wanted n r) :
    Takes d p (budget + 1) (wanted + 1) (n + 1) ((r.map (x :: ·)).mapError (· + 1)) := by
  cases h with
  | enough inside found least =>
    have he : (Except.map (x :: ·) (.ok (accepted d (p + 1) n))).mapError (· + 1) =
        Except.ok (ε := Nat) (accepted d p (n + 1)) := by
      rw [accepted_succ_of_some hc]
      rfl
    rw [he]
    refine .enough (Nat.succ_le_succ inside) ?_ fun m hm => ?_
    · rw [accepted_succ_of_some hc, List.length_cons, found]
    · cases m with
      | zero => exact Nat.succ_pos wanted
      | succ m =>
        rw [accepted_succ_of_some hc, List.length_cons]
        exact Nat.succ_lt_succ (least m (Nat.lt_of_succ_lt_succ hm))
  | spent short =>
    have he : (Except.map (x :: ·) (.error (accepted d (p + 1) budget).length)).mapError (· + 1) =
        Except.error (α := List Felt) (accepted d p (budget + 1)).length := by
      rw [accepted_succ_of_some hc]
      rfl
    rw [he]
    refine .spent ?_
    rw [accepted_succ_of_some hc, List.length_cons]
    exact Nat.succ_lt_succ short

theorem le_budget (h : Takes d p budget wanted n r) : n ≤ budget := by
  cases h with
  | enough inside found least => exact inside
  | spent short => exact le_rfl

/-- With enough elements on the way a take stops as soon as it has them. -/
theorem of_enough (h : Takes d p budget wanted n r)
    (he : wanted ≤ (accepted d p budget).length) :
    r = .ok ((accepted d p budget).take wanted) ∧
      IsLeast {n | wanted ≤ (accepted d p n).length} n := by
  cases h with
  | spent short => omega
  | enough inside found least =>
    refine ⟨?_, found.ge, fun m hm => ?_⟩
    · rw [accepted_eq_append d p inside, List.take_left' found]
    · by_contra hlt
      exact absurd (least m (Nat.not_le.mp hlt)) (Nat.not_lt.mpr hm)

theorem of_short (h : Takes d p budget wanted n r)
    (hs : (accepted d p budget).length < wanted) :
    r = .error (accepted d p budget).length ∧ n = budget := by
  cases h with
  | spent short => exact ⟨rfl, rfl⟩
  | enough inside found least =>
    rw [accepted_eq_append d p inside, List.length_append] at hs
    omega

end Takes

/-- A bounded take consumes candidates one after the other from its position on. -/
theorem exists_takes (d : Digest) (budget found wanted p : Nat) :
    ∃ n r, Takes d p budget wanted n r ∧
      takeWithin budget found wanted (atPosition d p) =
        (r.mapError (found + ·), atPosition d (p + n)) := by
  -- Accepted or not, a pull takes one from the budget and moves the position by one.
  induction budget generalizing found wanted p with
  | zero =>
    cases wanted with
    | zero => exact ⟨0, _, .zero d p 0, by rw [takeWithin]; rfl⟩
    | succ wanted => exact ⟨0, _, .spent (Nat.succ_pos wanted), by rw [takeWithin]; rfl⟩
  | succ budget ih =>
    cases wanted with
    | zero => exact ⟨0, _, .zero d p _, by rw [takeWithin]; rfl⟩
    | succ wanted =>
      have hpull := pull_atPosition d p
      cases hc : candidate d p with
      | none =>
        rw [hc] at hpull
        obtain ⟨n, r, hr, htake⟩ := ih found (wanted + 1) (p + 1)
        refine ⟨n + 1, r, hr.skip hc, ?_⟩
        rw [takeWithin_of_none hpull, htake, Nat.add_assoc, Nat.add_comm 1]
      | some x =>
        rw [hc] at hpull
        obtain ⟨n, r, hr, htake⟩ := ih (found + 1) wanted (p + 1)
        refine ⟨n + 1, _, hr.keep hc, ?_⟩
        rw [takeWithin_of_some hpull, htake, Nat.add_assoc p, Nat.add_comm 1]
        cases r with
        | error k =>
          have hk : found + 1 + k = found + (k + 1) := by omega
          exact Prod.ext (congrArg Except.error hk) rfl
        | ok xs => rfl

/-- A bounded take hands out the first accepted elements, if its pulls accept enough. -/
theorem takeWithin_atPosition (d : Digest) (budget found wanted p : Nat) :
    (takeWithin budget found wanted (atPosition d p)).1 =
      if wanted ≤ (accepted d p budget).length then .ok ((accepted d p budget).take wanted)
      else .error (found + (accepted d p budget).length) := by
  obtain ⟨n, r, hr, htake⟩ := exists_takes d budget found wanted p
  rw [htake]
  split_ifs with h
  · rw [(hr.of_enough h).1]
    rfl
  · rw [(hr.of_short (Nat.not_le.mp h)).1]
    rfl

/-- A take from a position has the candidates up to the end of the rounds that were started or that
it may start. -/
theorem collect_atPosition (d : Digest) (p count maxRounds : Nat) :
    ∃ n r, Takes d p (4 * max ((p + 3) / 4) maxRounds - p) count n r ∧
      (atPosition d p).collect count maxRounds =
        (r.mapError fun found => .internal (.samplerExhausted found count maxRounds),
          atPosition d (p + n)) := by
  obtain ⟨n, r, hr, htake⟩ := exists_takes d ((atPosition d p).allowance maxRounds) 0 count p
  rw [allowance_atPosition] at hr
  refine ⟨n, r, hr, ?_⟩
  simp only [collect, htake]
  cases r with
  | error k => simp [Except.mapError]
  | ok xs => rfl

/-- A fresh sampler has four candidates for each round that it may start. -/
theorem collect_ofDigest (d : Digest) (count maxRounds : Nat) :
    ((ofDigest d).collect count maxRounds).1 =
      if count ≤ (accepted d 0 (4 * maxRounds)).length then
        .ok ((accepted d 0 (4 * maxRounds)).take count)
      else .error (.internal
        (.samplerExhausted (accepted d 0 (4 * maxRounds)).length count maxRounds)) := by
  have hb : (ofDigest d).allowance maxRounds = 4 * maxRounds := Nat.zero_add _
  have h := takeWithin_atPosition d (4 * maxRounds) 0 count 0
  rw [Nat.zero_add] at h
  rw [collect, hb, ofDigest_eq]
  dsimp only
  rw [h]
  split_ifs <;> rfl

theorem hasRoom_iff {count : Nat} : hasRoom count elementBytes = true ↔ count < 2 ^ 60 := by
  rw [hasRoom, decide_eq_true_eq, elementBytes, maxListBytes]
  omega

/-- A take that has room collects. -/
theorem take_of_room {count : Nat} (h : count < 2 ^ 60) (maxRounds : Nat) (s : Sampler) :
    s.take count maxRounds =
      ((s.collect count maxRounds).1.mapError .error, (s.collect count maxRounds).2) := by
  rw [take, if_pos (hasRoom_iff.mpr h)]

/-- A take of more elements than any list has crashes before it looks at the sampler. -/
theorem take_of_no_room {count : Nat} (h : ¬ count < 2 ^ 60) (maxRounds : Nat) (s : Sampler) :
    s.take count maxRounds = (.error (.crash .capacity), s) := by
  rw [take, if_neg (fun hr => h (hasRoom_iff.mp hr))]

end ProofTrial.Sampler
