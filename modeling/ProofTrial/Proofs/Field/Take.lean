import ProofTrial.Proofs.Field.Calls
import ProofTrial.Proofs.Text.Hex
import Mathlib.Order.Bounds.Basic

/-! Bounded takes. The loop of a take ends after no more pulls than there are candidates up to the
end of its last round, it hands out the first elements accepted on the way, and a take of `a + b`
elements comes to the same as a take of `a` with one of `b` after it, as long as a list can have so
many. -/
namespace ProofTrial.Sampler

/-- The turns of a take with elements in hand, and how many of them pull. It is done with enough of
them, gives up before a pull that would start a round too many, and else keeps what a pull
accepts. -/
inductive Turns (count maxRounds : Nat) :
    List Felt → Sampler → Nat → Except Nat (List Felt) → Sampler → Prop where
  | done {found : List Felt} {s : Sampler} (enough : count ≤ found.length) :
      Turns count maxRounds found s 0 (.ok found) s
  | givesUp {found : List Felt} {s : Sampler} (short : found.length < count)
      (empty : s.pending = []) (spent : maxRounds ≤ s.rounds) :
      Turns count maxRounds found s 0 (.error found.length) s
  | pulls {found : List Felt} {s t : Sampler} {n : Nat} {r : Except Nat (List Felt)}
      (short : found.length < count) (more : s.pending = [] → s.rounds < maxRounds)
      (rest : Turns count maxRounds (found ++ s.pull.1.toList) s.pull.2 n r t) :
      Turns count maxRounds found s (n + 1) r t

theorem takeWithin_zero (budget found : Nat) (s : Sampler) :
    takeWithin budget found 0 s = (.ok [], s) := by
  cases budget <;> rw [takeWithin]

/-- Each pull takes one from the candidates that are left, so the turns come to an end. -/
theorem exists_turns {count maxRounds budget wanted : Nat} {found : List Felt} {s : Sampler}
    (hb : s.allowance maxRounds = budget) (hc : found.length + wanted = count) :
    ∃ n ≤ budget, Turns count maxRounds found s n
      ((takeWithin budget found.length wanted s).1.map (found ++ ·))
      (takeWithin budget found.length wanted s).2 := by
  induction budget generalizing found wanted s with
  | zero =>
    obtain ⟨hempty, hspent⟩ := allowance_eq_zero.mp hb
    refine ⟨0, le_rfl, ?_⟩
    cases wanted with
    | zero =>
      simp only [takeWithin_zero, Except.map, List.append_nil]
      exact .done hc.ge
    | succ wanted => exact .givesUp (by omega) hempty hspent
  | succ budget ih =>
    cases wanted with
    | zero =>
      refine ⟨0, Nat.zero_le _, ?_⟩
      simp only [takeWithin_zero, Except.map, List.append_nil]
      exact .done hc.ge
    | succ wanted =>
      have hshort : found.length < count := by omega
      have hmore : s.pending = [] → s.rounds < maxRounds := by
        intro hempty
        by_contra hspent
        rw [allowance_eq_zero.mpr ⟨hempty, Nat.not_lt.mp hspent⟩] at hb
        contradiction
      have hleft : s.allowance maxRounds ≠ 0 := by omega
      have hpull := allowance_pull hleft
      have hnext : s.pull.2.allowance maxRounds = budget := by omega
      cases hp : s.pull.1 with
      | none =>
        obtain ⟨n, hn, hrest⟩ := ih hnext hc
        refine ⟨n + 1, Nat.succ_le_succ hn, .pulls hshort hmore ?_⟩
        rw [takeWithin_of_none (Prod.ext hp rfl), hp, Option.toList_none, List.append_nil]
        exact hrest
      | some x =>
        have hlen : (found ++ [x]).length = found.length + 1 := List.length_append
        have hcount : (found ++ [x]).length + wanted = count := by omega
        obtain ⟨n, hn, hrest⟩ := ih hnext hcount
        refine ⟨n + 1, Nat.succ_le_succ hn, .pulls hshort hmore ?_⟩
        rw [takeWithin_of_some (Prod.ext hp rfl), hp, Option.toList_some]
        rw [hlen] at hrest
        generalize takeWithin budget (found.length + 1) wanted s.pull.2 = q at hrest ⊢
        obtain ⟨r, t⟩ := q
        cases r with
        | error k => exact hrest
        | ok xs => simpa [Except.map] using hrest

namespace Turns

variable {a b count maxRounds m n : Nat} {found xs : List Felt} {s t u : Sampler}
  {r : Except Nat (List Felt)}

/-- Every turn is settled by the elements in hand and the sampler. -/
theorem unique {m n : Nat} {q r : Except Nat (List Felt)} {t u : Sampler}
    (h : Turns count maxRounds found s m q t) (h' : Turns count maxRounds found s n r u) :
    m = n ∧ q = r ∧ t = u := by
  induction h generalizing n with
  | done enough =>
    cases h' with
    | done => exact ⟨rfl, rfl, rfl⟩
    | givesUp short | pulls short => omega
  | givesUp short empty spent =>
    cases h' with
    | givesUp => exact ⟨rfl, rfl, rfl⟩
    | done enough => omega
    | pulls _ more => exact absurd (more empty) (Nat.not_lt.mpr spent)
  | pulls short more rest ih =>
    cases h' with
    | done enough => omega
    | givesUp _ empty spent => exact absurd (more empty) (Nat.not_lt.mpr spent)
    | pulls _ _ rest' =>
      obtain ⟨rfl, hq, ht⟩ := ih rest'
      exact ⟨rfl, hq, ht⟩

theorem allowance_eq_zero_of_error {k : Nat} (h : Turns count maxRounds found s n (.error k) t) :
    t.allowance maxRounds = 0 := by
  generalize hr : Except.error k = r at h
  induction h with
  | done => contradiction
  | givesUp short empty spent => exact allowance_eq_zero.mpr ⟨empty, spent⟩
  | pulls short more rest ih => exact ih hr

/-- With more elements wanted, the turns that found enough lead on to further ones. -/
theorem trans (h : Turns a maxRounds found s m (.ok xs) t)
    (h' : Turns (a + b) maxRounds xs t n r u) :
    Turns (a + b) maxRounds found s (m + n) r u := by
  generalize hq : Except.ok xs = q at h
  induction h with
  | done enough =>
    obtain rfl := Except.ok.inj hq
    rwa [Nat.zero_add]
  | givesUp => contradiction
  | pulls short more rest ih =>
    rw [Nat.add_right_comm]
    exact .pulls (Nat.lt_add_right b short) more (ih h' hq)

theorem mono_of_error {k : Nat} (h : Turns a maxRounds found s n (.error k) t) :
    Turns (a + b) maxRounds found s n (.error k) t := by
  generalize hr : Except.error k = r at h
  induction h with
  | done => contradiction
  | givesUp short empty spent => exact .givesUp (Nat.lt_add_right b short) empty spent
  | pulls short more rest ih => exact .pulls (Nat.lt_add_right b short) more (ih hr)

/-- Elements that were in hand before change nothing but what is handed out. -/
theorem prepend (hl : xs.length = a) (h : Turns b maxRounds found s n r t) :
    Turns (a + b) maxRounds (xs ++ found) s n ((r.map (xs ++ ·)).mapError (a + ·)) t := by
  induction h with
  | done enough =>
    refine .done ?_
    rw [List.length_append]
    omega
  | @givesUp found s short empty spent =>
    have hlen : (xs ++ found).length = a + found.length := by rw [List.length_append, hl]
    have hstop : Turns (a + b) maxRounds (xs ++ found) s 0 (.error (xs ++ found).length) s :=
      .givesUp (by omega) empty spent
    rwa [hlen] at hstop
  | pulls short more rest ih =>
    rw [← List.append_assoc] at ih
    refine .pulls ?_ more ih
    rw [List.length_append]
    omega

end Turns

/-- What is answered for the elements of the turns, or for the number of them that were found. -/
def answer (count maxRounds : Nat) (r : Except Nat (List Felt)) : Except Error (List Felt) :=
  r.mapError fun found => .internal (.samplerExhausted found count maxRounds)

theorem exists_turns_collect (count maxRounds : Nat) (s : Sampler) :
    ∃ n ≤ s.allowance maxRounds, ∃ r,
      Turns count maxRounds [] s n r (s.collect count maxRounds).2 ∧
        (s.collect count maxRounds).1 = answer count maxRounds r := by
  have hcount : ([] : List Felt).length + count = count := Nat.zero_add count
  obtain ⟨n, hn, h⟩ := exists_turns (s := s) rfl hcount
  refine ⟨n, hn, _, h, ?_⟩
  rw [collect, answer]
  dsimp only [List.length_nil]
  cases (takeWithin (s.allowance maxRounds) 0 count s).1 <;> rfl

/-- The turns say what collecting comes to. -/
theorem Turns.collect_eq {count maxRounds n : Nat} {s t : Sampler} {r : Except Nat (List Felt)}
    (h : Turns count maxRounds [] s n r t) :
    s.collect count maxRounds = (answer count maxRounds r, t) := by
  obtain ⟨m, _, q, hturns, hanswer⟩ := exists_turns_collect count maxRounds s
  obtain ⟨_, rfl, rfl⟩ := hturns.unique h
  exact Prod.ext hanswer rfl

theorem collect_of_allowance_eq_zero {s : Sampler} {maxRounds : Nat}
    (h : s.allowance maxRounds = 0) (count : Nat) : (s.collect count maxRounds).2 = s := by
  rw [collect, h]
  cases count <;> rfl

/-- Collecting `a + b` elements is collecting `a` and then `b`. -/
theorem collect_add (a b maxRounds : Nat) (s : Sampler) :
    (s.collect (a + b) maxRounds).2 = ((s.collect a maxRounds).2.collect b maxRounds).2 ∧
      ∀ zs, (s.collect (a + b) maxRounds).1 = .ok zs ↔ ∃ xs ys,
        (s.collect a maxRounds).1 = .ok xs ∧
          ((s.collect a maxRounds).2.collect b maxRounds).1 = .ok ys ∧ zs = xs ++ ys := by
  obtain ⟨m, _, q, hfirst, hq⟩ := exists_turns_collect a maxRounds s
  generalize ht : (s.collect a maxRounds).2 = t at hfirst ⊢
  cases q with
  | error k =>
    have hboth := hfirst.mono_of_error (b := b)
    have hrest := collect_of_allowance_eq_zero hfirst.allowance_eq_zero_of_error b
    rw [hboth.collect_eq, hrest, hq]
    exact ⟨rfl, fun zs => by simp [answer, Except.mapError]⟩
  | ok xs =>
    obtain ⟨n, _, r, hsecond, hr⟩ := exists_turns_collect b maxRounds t
    have hlen : xs.length = a := collect_length hq
    have hrest := hsecond.prepend hlen
    rw [List.append_nil] at hrest
    rw [(hfirst.trans hrest).collect_eq, hq, hr]
    refine ⟨rfl, fun zs => ?_⟩
    cases r with
    | error k => simp [answer, Except.mapError, Except.map]
    | ok ys => simp [answer, Except.mapError, Except.map, eq_comm]

/-- The sampler that pulls leave. -/
def pulled (d : Digest) (n : Nat) : Sampler :=
  (serve (List.replicate n .pull) (ofDigest d)).2

theorem pulled_eq (d : Digest) (n : Nat) : pulled d n = atPosition d n := by
  rw [pulled, ofDigest_eq, serve_pulls, Nat.zero_add]

/-- How collecting from the position `p` ends when it has to stop at the position `last`. -/
structure Ends (d : Digest) (p last count maxRounds : Nat) (s : Sampler)
    (r : Except Error (List Felt)) (t : Sampler) : Prop where
  turns : ∃ n ≤ last - p, ∃ q, Turns count maxRounds [] s n q t ∧ r = answer count maxRounds q
  rounds : t.rounds ≤ max s.rounds maxRounds
  enough : count ≤ (accepted d p (last - p)).length →
    r = .ok ((accepted d p (last - p)).take count) ∧
      ∃ n, IsLeast {n | count ≤ (accepted d p n).length} n ∧ t = pulled d (p + n)
  short : (accepted d p (last - p)).length < count →
    r = .error (.internal
      (.samplerExhausted (accepted d p (last - p)).length count maxRounds)) ∧ t = pulled d last

theorem ends_collect (d : Digest) (p count maxRounds : Nat) :
    Ends d p (4 * max (pulled d p).rounds maxRounds) count maxRounds (pulled d p)
      ((pulled d p).collect count maxRounds).1 ((pulled d p).collect count maxRounds).2 := by
  obtain ⟨k, hk, q, hturns, hq⟩ := exists_turns_collect count maxRounds (pulled d p)
  obtain ⟨n, r, hr, hcollect⟩ := collect_atPosition d p count maxRounds
  have hrounds : (pulled d p).rounds = (p + 3) / 4 := by rw [pulled_eq]; rfl
  have hpulled : (pulled d p).collect count maxRounds =
      (answer count maxRounds r, pulled d (p + n)) := by
    rw [pulled_eq, pulled_eq]
    exact hcollect
  have hle := hr.le_budget
  rw [pulled_eq, allowance_atPosition] at hk
  rw [hrounds]
  refine ⟨⟨k, hk, q, hturns, hq⟩, ?_, ?_, ?_⟩
  · have hnext : (pulled d (p + n)).rounds = (p + n + 3) / 4 := by rw [pulled_eq]; rfl
    rw [hpulled, hrounds, hnext]
    omega
  · intro h
    obtain ⟨rfl, hleast⟩ := hr.of_enough h
    rw [hpulled]
    exact ⟨rfl, n, hleast, rfl⟩
  · intro h
    obtain ⟨rfl, rfl⟩ := hr.of_short h
    rw [hpulled]
    refine ⟨rfl, congrArg (pulled d) ?_⟩
    omega

/-- A take of `a + b` elements is a take of `a` and one of `b` after it. -/
theorem take_add {a b : Nat} (h : a + b < 2 ^ 60) (maxRounds : Nat) (s : Sampler) :
    (s.take (a + b) maxRounds).2 = ((s.take a maxRounds).2.take b maxRounds).2 ∧
      ∀ zs, (s.take (a + b) maxRounds).1 = .ok zs ↔ ∃ xs ys,
        (s.take a maxRounds).1 = .ok xs ∧ ((s.take a maxRounds).2.take b maxRounds).1 = .ok ys ∧
          zs = xs ++ ys := by
  have ha : a < 2 ^ 60 := lt_of_le_of_lt (Nat.le_add_right a b) h
  have hb : b < 2 ^ 60 := lt_of_le_of_lt (Nat.le_add_left b a) h
  simp only [take_of_room h, take_of_room ha, take_of_room hb, mapError_eq_ok]
  exact collect_add a b maxRounds s

/-- Whatever calls a sampler has served, it stands where `p` pulls would have left it. From there a
take of as many elements as a list has room for hands out the first elements accepted before its
rounds end and stops right behind the last of them, or fails where its rounds end; either way its
loop ends, and a take of more elements is one take after another. A take of more than that crashes
and leaves the sampler as it was. -/
theorem take_first_accepted (d : Digest) (calls : List Call) :
    ∃ p answers s, serve calls (ofDigest d) = (answers, s) ∧ Served d 0 calls answers p ∧
      s = pulled d p ∧
      (∀ count maxRounds, count < 2 ^ 60 →
        ∃ r t, s.take count maxRounds = (r.mapError .error, t) ∧
          Ends d p (4 * max s.rounds maxRounds) count maxRounds s r t) ∧
      (∀ count maxRounds, 2 ^ 60 ≤ count →
        s.take count maxRounds = (.error (.crash .capacity), s)) ∧
      ∀ a b maxRounds, a + b < 2 ^ 60 →
        (s.take (a + b) maxRounds).2 = ((s.take a maxRounds).2.take b maxRounds).2 ∧
        ∀ zs, (s.take (a + b) maxRounds).1 = .ok zs ↔ ∃ xs ys,
          (s.take a maxRounds).1 = .ok xs ∧ ((s.take a maxRounds).2.take b maxRounds).1 = .ok ys ∧
            zs = xs ++ ys := by
  obtain ⟨p, answers, hserved, hserve⟩ := serve_atPosition calls d 0
  rw [Nat.zero_add] at hserve
  have hpulled : serve calls (ofDigest d) = (answers, pulled d p) := by rw [pulled_eq]; exact hserve
  refine ⟨p, answers, pulled d p, hpulled, hserved, rfl, ?_, ?_, ?_⟩
  · intro count maxRounds hroom
    exact ⟨_, _, take_of_room hroom maxRounds _, ends_collect d p count maxRounds⟩
  · intro count maxRounds hlarge
    exact take_of_no_room (Nat.not_lt.mpr hlarge) maxRounds _
  · intro a b maxRounds hroom
    exact take_add hroom maxRounds _

/-- With no round to start no element is found, but a take of too many for any list does not get as
far as reporting that. -/
theorem take_reports_nothing :
    (∀ xs, ((ofDigest (Vector.replicate 32 0)).take (2 ^ 60) 0).1 ≠ .ok xs) ∧
    ∀ f, ((ofDigest (Vector.replicate 32 0)).take (2 ^ 60) 0).1 ≠ .error (.error (.internal f)) := by
  rw [take_of_no_room (Nat.lt_irrefl _)]
  exact ⟨fun _ => nofun, fun _ => nofun⟩

end ProofTrial.Sampler
