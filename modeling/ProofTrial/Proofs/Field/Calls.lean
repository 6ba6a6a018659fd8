import ProofTrial.Proofs.Field.Sampler

/-! Calls on a sampler, one after the other. Each call consumes the candidates from the position
where the one before it stopped, so after any calls the sampler stands right behind the candidates
they consumed, as it would after as many single pulls. -/
namespace ProofTrial.Sampler

inductive Call where
  | pull
  | take (count maxRounds : Nat)
  deriving DecidableEq, Repr

inductive Answer where
  | pulled (x : Option Felt)
  | taken (xs : Except Failure (List Felt))

namespace Answer

/-- The elements that come with an answer. A take that fails drops those it found. -/
def elements : Answer → List Felt
  | pulled x => x.toList
  | taken (.ok xs) => xs
  | taken (.error _) => []

def failed : Answer → Bool
  | pulled _ => false
  | taken (.ok _) => false
  | taken (.error _) => true

end Answer

def Call.serve : Call → Sampler → Answer × Sampler
  | pull, s => (.pulled s.pull.1, s.pull.2)
  | take count maxRounds, s => (.taken (s.take count maxRounds).1, (s.take count maxRounds).2)

/-- The answers to calls, and the sampler they leave. -/
def serve : List Call → Sampler → List Answer × Sampler
  | [], s => ([], s)
  | c :: cs, s =>
    let (a, s) := c.serve s
    let (as, s) := serve cs s
    (a :: as, s)

/-- What a call at a position answers, and how many candidates it consumes. A take of more elements
than a list can have crashes and consumes none. -/
inductive Answers (d : Digest) (p : Nat) : Call → Nat → Answer → Prop where
  | pull : Answers d p .pull 1 (.pulled (candidate d p))
  | take {count maxRounds n : Nat} {r : Except Nat (List Felt)} (room : count < 2 ^ 60)
      (takes : Takes d p (4 * max ((p + 3) / 4) maxRounds - p) count n r) :
      Answers d p (.take count maxRounds) n (.taken
        (r.mapError fun found => .error (.internal (.samplerExhausted found count maxRounds))))
  | crash {count maxRounds : Nat} (large : 2 ^ 60 ≤ count) :
      Answers d p (.take count maxRounds) 0 (.taken (.error (.crash .capacity)))

/-- What calls answer from a position on, and how many candidates they consume together. Each one
starts where the one before it stopped. -/
inductive Served (d : Digest) : Nat → List Call → List Answer → Nat → Prop where
  | nil {p : Nat} : Served d p [] [] 0
  | cons {p m n : Nat} {c : Call} {cs : List Call} {a : Answer} {as : List Answer}
      (first : Answers d p c m a) (rest : Served d (p + m) cs as n) :
      Served d p (c :: cs) (a :: as) (m + n)

/-- A call moves the position by what it consumes. -/
theorem Call.serve_atPosition (c : Call) (d : Digest) (p : Nat) :
    ∃ n a, Answers d p c n a ∧ c.serve (atPosition d p) = (a, atPosition d (p + n)) := by
  cases c with
  | pull =>
    refine ⟨1, _, .pull, ?_⟩
    rw [Call.serve, pull_atPosition]
  | take count maxRounds =>
    by_cases hroom : count < 2 ^ 60
    · obtain ⟨n, r, hr, hcollect⟩ := collect_atPosition d p count maxRounds
      refine ⟨n, _, .take hroom hr, ?_⟩
      rw [Call.serve, take_of_room hroom, hcollect]
      cases r <;> rfl
    · refine ⟨0, _, .crash (Nat.not_lt.mp hroom), ?_⟩
      rw [Call.serve, take_of_no_room hroom, Nat.add_zero]

theorem serve_atPosition (cs : List Call) (d : Digest) (p : Nat) :
    ∃ n as, Served d p cs as n ∧ serve cs (atPosition d p) = (as, atPosition d (p + n)) := by
  induction cs generalizing p with
  | nil => exact ⟨0, [], .nil, rfl⟩
  | cons c cs ih =>
    obtain ⟨m, a, hfirst, hserve⟩ := c.serve_atPosition d p
    obtain ⟨n, as, hrest, hall⟩ := ih (p + m)
    refine ⟨m + n, a :: as, .cons hfirst hrest, ?_⟩
    rw [serve, hserve]
    dsimp only
    rw [hall, Nat.add_assoc]

theorem serve_pulls (d : Digest) (p n : Nat) :
    (serve (List.replicate n .pull) (atPosition d p)).2 = atPosition d (p + n) := by
  induction n generalizing p with
  | zero => rfl
  | succ n ih =>
    rw [List.replicate_succ, serve, Call.serve, pull_atPosition]
    dsimp only
    rw [ih, Nat.add_assoc, Nat.add_comm 1]

/-- A call hands out the accepted elements among the candidates that it consumes, all of them
unless it fails. -/
theorem Answers.elements_eq {d : Digest} {p n : Nat} {c : Call} {a : Answer}
    (h : Answers d p c n a) : a.elements = accepted d p n ∨ a.failed = true ∧ a.elements = [] := by
  cases h with
  | pull =>
    refine .inl ?_
    cases hc : candidate d p <;> simp [Answer.elements, accepted, hc]
  | take room takes =>
    cases takes with
    | enough inside found least => exact .inl rfl
    | spent short => exact .inr ⟨rfl, rfl⟩
  | crash large => exact .inr ⟨rfl, rfl⟩

/-- Together calls hand out the elements that the stream accepts up to where they stop, in the
order of the stream and without those that failing takes drop. -/
theorem Served.elements {d : Digest} {p n : Nat} {cs : List Call} {as : List Answer}
    (h : Served d p cs as n) :
    (as.flatMap Answer.elements).Sublist (accepted d p n) ∧
      ((∀ a ∈ as, a.failed = false) → as.flatMap Answer.elements = accepted d p n) := by
  induction h with
  | nil => exact ⟨List.Sublist.refl [], fun _ => rfl⟩
  | cons first rest ih =>
    rw [accepted_add, List.flatMap_cons]
    rcases first.elements_eq with ha | ⟨hf, ha⟩
    · rw [ha]
      refine ⟨ih.1.append_left _, fun hall => ?_⟩
      rw [ih.2 fun a hm => hall a (List.mem_cons_of_mem _ hm)]
    · rw [ha]
      exact ⟨ih.1.trans (List.sublist_append_right _ _),
        fun hall => absurd hf (by rw [hall _ List.mem_cons_self]; decide)⟩

/-- Whatever calls a sampler has served, it has consumed the candidates before a position `p` one
call after the other, has started the rounds that they take, and its next pull answers for the
candidate at `p`. -/
theorem serve_ofDigest (d : Digest) (calls : List Call) :
    ∃ p answers s, serve calls (ofDigest d) = (answers, s) ∧ Served d 0 calls answers p ∧
      s = (serve (List.replicate p .pull) (ofDigest d)).2 ∧
      s.rounds = (p + 3) / 4 ∧
      Decodes (word d p) s.pull.1 ∧
      s.pull.2 = (serve (List.replicate (p + 1) .pull) (ofDigest d)).2 ∧
      (answers.flatMap Answer.elements).Sublist (accepted d 0 p) ∧
      ((∀ a ∈ answers, a.failed = false) → answers.flatMap Answer.elements = accepted d 0 p) := by
  obtain ⟨p, answers, hserved, hserve⟩ := serve_atPosition calls d 0
  rw [Nat.zero_add] at hserve
  have hpulls (n : Nat) : (serve (List.replicate n .pull) (ofDigest d)).2 = atPosition d n := by
    rw [ofDigest_eq, serve_pulls, Nat.zero_add]
  refine ⟨p, answers, atPosition d p, hserve, hserved, (hpulls p).symm, rfl, ?_, ?_,
    hserved.elements⟩
  · rw [pull_atPosition]
    exact decodes_candidate d p
  · rw [pull_atPosition, hpulls]

end ProofTrial.Sampler
