import ProofTrial.Proofs.CommandLine.Session
import ProofTrial.Proofs.FileTree
import ProofTrial.Proofs.Parameters
import ProofTrial.Proofs.Trial.Prepared
import ProofTrial.Proofs.Witness.Rows

/-! The commands that write the input files of one proof. Everything is made before anything is
written, so a command leaves both files, of one secret, or fails or crashes and leaves every file
and directory as it was. -/
namespace ProofTrial

namespace Json

theorem plain_word {n : Nat} (h : n < 2 ^ 64) : Plain (.integer n) :=
  ⟨integral_word h, ordered_integer n, within_integer _ n⟩

theorem plain_rows (rows : List (List String)) : Plain (.array (rows.map strings)) := by
  have hrow : ∀ v ∈ rows.map strings, ∃ texts, v = strings texts := by
    intro v hv
    obtain ⟨texts, _, rfl⟩ := List.mem_map.mp hv
    exact ⟨texts, rfl⟩
  refine ⟨.array fun v hv => ?_, .array fun v hv => ?_, .array fun v hv => ?_⟩
  · obtain ⟨texts, rfl⟩ := hrow v hv
    exact integral_strings texts
  · obtain ⟨texts, rfl⟩ := hrow v hv
    exact ordered_strings texts
  · obtain ⟨texts, rfl⟩ := hrow v hv
    exact within_strings _ texts

end Json

namespace CommandLine

namespace Session

/-- The directory can be made, and takes both files. -/
def Receives (tree : FileTree) (outDir : String) (scheme : Scheme) : Prop :=
  ∃ made, tree.makePath outDir = (.ok (), made) ∧
    made.Takes (privatePath outDir scheme.name) ∧ made.Takes (publicPath outDir scheme.name)

/-- The file at a path holds a JSON value. -/
def Holds (tree : FileTree) (path : String) (v : Json) : Prop :=
  ∃ text, tree.read path = .ok text.toUTF8 ∧ Json.parse text = .ok v

theorem isName_private (scheme : Scheme) : Path.IsName (scheme.name ++ "_private_input.json") := by
  cases scheme <;> exact ⟨by decide, by decide, by decide, by decide⟩

theorem isName_public (scheme : Scheme) : Path.IsName (scheme.name ++ "_public_input.json") := by
  cases scheme <;> exact ⟨by decide, by decide, by decide, by decide⟩

theorem name_private_ne_public (scheme : Scheme) :
    scheme.name ++ "_private_input.json" ≠ scheme.name ++ "_public_input.json" := by
  cases scheme <;> decide

variable {σ : Type}

/-- Both files are written and hold what they were given. -/
theorem finishPair_of_receives {host : Host} {outDir : String} {scheme : Scheme}
    (h : Receives host.tree outDir scheme) {fs gs : Json.Fields} (hf : ∀ f ∈ fs, f.2.Plain)
    (hg : ∀ g ∈ gs, g.2.Plain) (s : σ) :
    ∃ after, finishPair host outDir scheme.name (.object fs) (.object gs) s =
        ⟨["Wrote " ++ privatePath outDir scheme.name, "Wrote " ++ publicPath outDir scheme.name],
          .ok true, after, s⟩ ∧
      Holds after (privatePath outDir scheme.name) (Json.ofFields fs) ∧
      Holds after (publicPath outDir scheme.name) (Json.ofFields gs) := by
  obtain ⟨made, hmade, hprivate, hpublic⟩ := h
  have hb : outDir ≠ "" := by
    rintro rfl
    simp [FileTree.makePath, FileTree.checkPath] at hmade
  obtain ⟨after, hwrite, hx, hy⟩ := FileTree.writeEach_pair hb (isName_private scheme)
    (isName_public scheme) (name_private_ne_public scheme) hprivate hpublic
    (Json.object fs).pretty (Json.object gs).pretty
  refine ⟨after, ?_, ⟨_, hx, (Json.parse_object hf).1⟩, ⟨_, hy, (Json.parse_object hg).1⟩⟩
  simp only [finishPair, writePair, hmade]
  rw [privatePath, publicPath, hwrite]

/-- A directory that is there receives the files when their paths are not too long and no directory
in it has one of their names. -/
theorem receives_of_directory {tree : FileTree} {outDir : String} {scheme : Scheme} {d : Location}
    (hd : tree.reach outDir = .ok d) (hdir : tree.isDirectory d = true)
    (hfile : tree.isFile d = false)
    (hprivate : FileTree.checkPath (privatePath outDir scheme.name) = .ok ())
    (hpublic : FileTree.checkPath (publicPath outDir scheme.name) = .ok ())
    (hfree : tree.isDirectory (d ++ [scheme.name ++ "_private_input.json"]) = false)
    (hfree' : tree.isDirectory (d ++ [scheme.name ++ "_public_input.json"]) = false) :
    Receives tree outDir scheme := by
  obtain ⟨hc, hfollow⟩ := FileTree.reach_eq_ok.mp hd
  have hb : outDir ≠ "" := (FileTree.checkPath_eq_ok.mp hc).1
  have hsize : (scheme.name ++ "_private_input.json").utf8ByteSize ≤ FileTree.maxNameBytes := by
    cases scheme <;> decide
  have hsize' : (scheme.name ++ "_public_input.json").utf8ByteSize ≤ FileTree.maxNameBytes := by
    cases scheme <;> decide
  exact ⟨tree, FileTree.makePath_of_directory hd hdir,
    (FileTree.takes_join_iff hb (isName_private scheme)).mpr
      ⟨hprivate, d, hfollow, hfile, hdir, hsize, hfree⟩,
    (FileTree.takes_join_iff hb (isName_public scheme)).mpr
      ⟨hpublic, d, hfollow, hfile, hdir, hsize', hfree'⟩⟩

/-- The permutation that the arguments and what is around them give. -/
def Serves (host : Host) (arguments : Arguments) (permute : Permutation) : Prop :=
  ∃ config, configOf host arguments = .ok config ∧ permutationOf host config = .ok permute

/-- A session leaves its files, or fails or crashes and leaves the tree as it was. -/
inductive AllOrNothing (host : Host) (session : Session σ) (written : FileTree → Prop)
    (blocked : Error → Prop) (dies : Crash → Prop) : Prop where
  | all (exit : session.exitCode = 0) (files : written session.tree) :
      AllOrNothing host session written blocked dies
  | nothing {e : Error} (exit : session.exitCode = 2) (result : session.result = .error (.error e))
      (unchanged : session.tree = host.tree) (reason : blocked e) :
      AllOrNothing host session written blocked dies
  | crashed {c : Crash} (exit : session.exitCode = 101)
      (result : session.result = .error (.crash c)) (unchanged : session.tree = host.tree)
      (reason : dies c) : AllOrNothing host session written blocked dies

variable [RandomSource σ]

/-- The witness of the length that was asked for, or of one that is drawn first. -/
def witnessFor (requested : Option Nat) (s : σ) : Except Failure Witness × σ :=
  match requested with
  | some n => Witness.random n s
  | none => (.ok (Witness.drawn s).1, (Witness.drawn s).2)

/-- The seed of the key that was given, or one that is drawn. -/
def seedFor (given : Option String) (s : σ) : Except Error Seed × σ :=
  match given with
  | some text => (Seed.ofHex text, s)
  | none => ((.ok (Seed.random s).1), (Seed.random s).2)

/-- Two files that speak of one witness and its output. -/
structure ChainFiles (permute : Permutation) (requested : Option Nat) (s : σ)
    (privateInput publicInput : Json) (w : Witness) (out : Row) : Prop where
  drawn : (witnessFor requested s).1 = .ok w
  secret : ∃ words, privateInput.field? "witness" = some (.array (words.map Json.strings)) ∧
    Witness.ofHexRows words = .ok w
  claimedLength : publicInput.field? "chain_length" = some (.integer w.chainLength)
  instances : 0 < w.chainLength ∧ 3 ∣ w.chainLength
  asked : ∀ n, requested = some n → w.chainLength = n
  output : permute.hashChain w.rows = .ok out
  claimedOutput : publicInput.field? "output" = some (.strings out.toHex)

/-- Two files that speak of one pair of keys. -/
structure KeyFiles (permute : Permutation) (given : Option String) (message : String) (s : σ)
    (privateInput publicInput : Json) (seed : Seed) (key : Row) : Prop where
  drawn : (seedFor given s).1 = .ok seed
  secret : ∃ text, privateInput.field? "private_key" = some (.string text) ∧
    Seed.ofHex text = .ok seed
  asked : ∀ text, given = some text → Seed.ofHex text = .ok seed
  derived : ∃ v, seed.secretPreimage = .ok v ∧ permute v = .ok key
  claimedKey : publicInput.field? "public_key" = some (.strings key.toHex)
  claimedMessage : publicInput.field? "message" = some (.string message)

/-- Why a command comes to nothing. -/
inductive Blocked (host : Host) (arguments : Arguments) (s : σ) : Error → Prop where
  | config {e : Error} (h : configOf host arguments = .error e) : Blocked host arguments s e
  | permutation {config : Config} {e : Error} (hc : configOf host arguments = .ok config)
      (h : permutationOf host config = .error e) : Blocked host arguments s e
  | chainLength {n : Nat} {outDir : String}
      (hc : arguments.command = .rescueInput (some n) outDir) (h : ¬ (0 < n ∧ 3 ∣ n)) :
      Blocked host arguments s (.invalidParameter (.chainLength 3 n))
  | chain {requested : Option Nat} {outDir : String} {permute : Permutation} {w : Witness}
      {e : Error} (hc : arguments.command = .rescueInput requested outDir)
      (hp : Serves host arguments permute) (hw : (witnessFor requested s).1 = .ok w)
      (h : permute.FailsIn w.rows e) : Blocked host arguments s e
  | key {text message outDir : String} {e : Error}
      (hc : arguments.command = .ziggyKeys (some text) message outDir)
      (h : Seed.ofHex text = .error e) : Blocked host arguments s e
  | derivation {given : Option String} {message outDir : String} {permute : Permutation}
      {seed : Seed} {e : Error} (hc : arguments.command = .ziggyKeys given message outDir)
      (hp : Serves host arguments permute) (hs : (seedFor given s).1 = .ok seed)
      (h : seed.secretPreimage = .error e ∨
        ∃ v, seed.secretPreimage = .ok v ∧ permute v = .error e) : Blocked host arguments s e

/-- The program that serves the permutation starts on an input. -/
def Starts (host : Host) (config : Config) (input : Vector Felt 8) : Prop :=
  ∃ program arguments, config.permutationCommand = some (program :: arguments) ∧
    ∀ reason, (host.permutationProgram program arguments).run (Permutation.request input) ≠
      .notStarted reason

/-- Why a command crashes: the rows that were asked for are more than a list can have, or a program
starts whose time limit ends later than the clock can show. -/
inductive Dies (host : Host) (arguments : Arguments) (s : σ) : Crash → Prop where
  | rows {n : Nat} {outDir : String} {permute : Permutation}
      (hc : arguments.command = .rescueInput (some n) outDir) (hp : Serves host arguments permute)
      (h : 0 < n ∧ 3 ∣ n) (large : 2 ^ 58 ≤ n + 1) : Dies host arguments s .capacity
  | chain {requested : Option Nat} {outDir : String} {config : Config} {w : Witness} {a b : Row}
      {rest : List Row} (hc : arguments.command = .rescueInput requested outDir)
      (hconfig : configOf host arguments = .ok config) (blind : host.shows config.limit = false)
      (hw : (witnessFor requested s).1 = .ok w) (hrows : w.rows = a :: b :: rest)
      (h : Starts host config (a ++ b)) : Dies host arguments s .deadline
  | keys {given : Option String} {message outDir : String} {config : Config} {seed : Seed}
      {v : Vector Felt 8} (hc : arguments.command = .ziggyKeys given message outDir)
      (hconfig : configOf host arguments = .ok config) (blind : host.shows config.limit = false)
      (hs : (seedFor given s).1 = .ok seed) (hv : seed.secretPreimage = .ok v)
      (h : Starts host config v) : Dies host arguments s .deadline

/-- What the witness of a chain comes to. -/
inductive Drawn (requested : Option Nat) : Except Failure Witness → Prop where
  | refused {n : Nat} (asked : requested = some n) (h : ¬ (0 < n ∧ 3 ∣ n)) :
      Drawn requested (.error (.error (.invalidParameter (.chainLength 3 n))))
  | crashed {n : Nat} (asked : requested = some n) (h : 0 < n ∧ 3 ∣ n) (large : 2 ^ 58 ≤ n + 1) :
      Drawn requested (.error (.crash .capacity))
  | drawn {w : Witness} (asked : ∀ n, requested = some n → w.chainLength = n) (whole : w.Whole)
      (room : w.chainLength + 1 < 2 ^ 58) : Drawn requested (.ok w)

theorem drawn_witnessFor (requested : Option Nat) (s : σ) :
    Drawn requested (witnessFor requested s).1 := by
  cases requested with
  | none =>
    obtain ⟨hwhole, hle⟩ := Witness.whole_drawn s
    exact .drawn nofun hwhole (lt_of_le_of_lt (Nat.succ_le_succ hle) (by decide))
  | some n =>
    show Drawn (some n) (Witness.random n s).1
    by_cases h : 0 < n ∧ 3 ∣ n
    · by_cases hroom : n + 1 < 2 ^ 58
      · obtain ⟨hwhole, hlength⟩ := Witness.whole_randomRows h s
        rw [Witness.random_of_room h hroom]
        exact .drawn (fun m hm => hlength.trans (Option.some.inj hm)) hwhole (by rwa [hlength])
      · rw [Witness.random_of_no_room h hroom]
        exact .crashed rfl h (Nat.not_lt.mp hroom)
    · rw [Witness.random_of_partial h]
      exact .refused rfl h

/-- A chain is made of its witness. -/
theorem generate_eq (requested : Option Nat) (permute : Permutation) (s : σ) :
    ChainProof.generate requested permute s =
      match witnessFor requested s with
      | (.error f, t) => (.error f, t)
      | (.ok w, t) => ((ChainProof.ofWitness permute w).mapError .error, t) := by
  cases requested with
  | none => simp only [ChainProof.generate_none, witnessFor, ChainProof.ofDrawn]
  | some n => rfl

/-- The key that was given is read first, and a pair is made of its seed or of a drawn one. -/
theorem seedFor_cases (given : Option String) (s : σ) :
    (∃ chosen seed t, given.mapM Seed.ofHex = .ok chosen ∧ seedFor given s = (.ok seed, t) ∧
      ∀ permute, KeyPair.derive chosen permute s = (KeyPair.ofSeed permute seed, t)) ∨
    ∃ text e, given = some text ∧ given.mapM Seed.ofHex = .error e ∧
      Seed.ofHex text = .error e := by
  cases given with
  | none => exact .inl ⟨none, (Seed.random s).1, (Seed.random s).2, rfl, rfl, fun _ => rfl⟩
  | some text =>
    have hread : (some text).mapM Seed.ofHex = (Seed.ofHex text).map some := rfl
    cases hk : Seed.ofHex text with
    | error e => exact .inr ⟨text, e, rfl, by rw [hread, hk]; rfl, hk⟩
    | ok seed =>
      refine .inl ⟨some seed, seed, s, by rw [hread, hk]; rfl, ?_, fun _ => rfl⟩
      rw [seedFor, hk]

theorem chainFiles {requested : Option Nat} {permute : Permutation} {s t : σ} {w : Witness}
    {out : Row} (hw : witnessFor requested s = (.ok w, t)) (hwhole : w.Whole)
    (hasked : ∀ n, requested = some n → w.chainLength = n)
    (hout : permute.hashChain w.rows = .ok out) :
    ChainFiles permute requested s (.ofFields [("witness", .array (w.toHexRows.map Json.strings))])
      (ProverInputs.rescueClaim ⟨w, out⟩).toValue w out := by
  have hnames : ((ProverInputs.rescueClaim ⟨w, out⟩).fields.map Prod.fst).Nodup := by
    show ["output", "chain_length"].Nodup
    decide
  constructor
  case drawn => exact congrArg Prod.fst hw
  case secret => exact ⟨w.toHexRows, rfl, Witness.ofHexRows_toHexRows hwhole⟩
  case claimedLength => exact Json.field?_ofFields "chain_length" hnames
  case instances => exact ⟨hwhole.positive, hwhole.instances⟩
  case asked => exact hasked
  case output => exact hout
  case claimedOutput => exact Json.field?_ofFields "output" hnames

theorem keyFiles {given : Option String} {message : String} {permute : Permutation} {s t : σ}
    {seed : Seed} {keys : KeyPair} (hseed : seedFor given s = (.ok seed, t))
    (hkeys : KeyPair.ofSeed permute seed = .ok keys) :
    KeyFiles permute given message s (.ofFields [("private_key", .string seed.toHex)])
      (ProverInputs.ziggyClaim message keys).toValue seed keys.publicKey := by
  obtain ⟨_, hderived⟩ := KeyPair.ofSeed_eq_ok.mp hkeys
  have hnames : ((ProverInputs.ziggyClaim message keys).fields.map Prod.fst).Nodup := by
    show ["message", "public_key"].Nodup
    decide
  constructor
  case drawn => exact congrArg Prod.fst hseed
  case secret => exact ⟨seed.toHex, rfl, seed.ofHex_toHex⟩
  case asked =>
    rintro text rfl
    exact congrArg Prod.fst hseed
  case derived => exact hderived
  case claimedKey => exact Json.field?_ofFields "public_key" hnames
  case claimedMessage => exact Json.field?_ofFields "message" hnames

/-- What is left of a chain that was asked for. -/
def ChainWritten (host : Host) (arguments : Arguments) (requested : Option Nat) (outDir : String)
    (s : σ) (tree : FileTree) : Prop :=
  ∃ permute privateInput publicInput w out, Serves host arguments permute ∧
    Holds tree (privatePath outDir "rescue") privateInput ∧
    Holds tree (publicPath outDir "rescue") publicInput ∧
    ChainFiles permute requested s privateInput publicInput w out

/-- What is left of keys that were asked for. -/
def KeysWritten (host : Host) (arguments : Arguments) (given : Option String)
    (message outDir : String) (s : σ) (tree : FileTree) : Prop :=
  ∃ permute privateInput publicInput seed key, Serves host arguments permute ∧
    Holds tree (privatePath outDir "ziggy") privateInput ∧
    Holds tree (publicPath outDir "ziggy") publicInput ∧
    KeyFiles permute given message s privateInput publicInput seed key

/-- An error stays one, unless a program did not end in a time limit whose end the clock cannot
show. -/
theorem settle_error (host : Host) (limit : Timespan) (e : Error) :
    host.settle limit (.error e) = .error e ∨
    host.settle limit (.error e) = .crash .deadline ∧ host.shows limit = false ∧
      ∃ program given, e = .timeout program given := by
  cases e with
  | timeout program given =>
    cases hs : host.shows limit with
    | true => exact .inl (by simp only [Host.settle, hs, if_true])
    | false => exact .inr ⟨by simp [Host.settle, hs], rfl, program, given, rfl⟩
  | _ => exact .inl rfl

theorem settle_timeout {host : Host} {limit : Timespan} (h : host.shows limit = false)
    (program : String) (given : Timespan) :
    host.settle limit (.error (.timeout program given)) = .crash .deadline := by
  simp [Host.settle, h]

/-- A program that is never seen to end does not end in time, if it starts. -/
theorem start_unfinished {ι ο : Type} (p : Program ι ο) (limit : Timespan) (input : ι) :
    ∃ e, p.unfinished.start limit input = .error e ∧
      ((∃ program given, e = .timeout program given) ↔
        ∀ reason, p.run input ≠ .notStarted reason) := by
  unfold Program.start Program.unfinished
  dsimp only
  cases p.run input <;> simp [Launch.unfinished]

/-- No program ends in a time limit whose end the clock cannot show. -/
theorem permute_of_blind {host : Host} {config : Config} {permute : Permutation}
    (hp : permutationOf host config = .ok permute) (h : host.shows config.limit = false)
    (input : Vector Felt 8) : ∃ e, permute input = .error e ∧
      ((∃ program given, e = .timeout program given) ↔ Starts host config input) := by
  unfold permutationOf Config.permutation at hp
  split at hp
  next hcommand =>
    obtain rfl := Except.ok.inj hp
    refine ⟨_, rfl, ?_⟩
    simp [Starts, hcommand]
  next => contradiction
  next program arguments hcommand =>
    obtain rfl := Except.ok.inj hp
    obtain ⟨e, he, htimeout⟩ := start_unfinished (host.permutationProgram program arguments)
      config.limit (Permutation.request input)
    refine ⟨e, ?_, htimeout.trans ?_⟩
    · have htimed : host.timed config.limit (host.permutationProgram program arguments) =
          (host.permutationProgram program arguments).unfinished := by
        simp only [Host.timed, h, Bool.false_eq_true, if_false]
      simp only [Permutation.ofProgram, htimed, he]
    · simp [Starts, hcommand]

theorem exists_permutation_of_starts {host : Host} {config : Config} {input : Vector Felt 8}
    (h : Starts host config input) : ∃ permute, permutationOf host config = .ok permute := by
  obtain ⟨program, arguments, hcommand, _⟩ := h
  simp only [permutationOf, Config.permutation, hcommand]
  exact ⟨_, rfl⟩

/-- Why a command comes to nothing, or crashes. -/
inductive Stops (host : Host) (arguments : Arguments) (s : σ) : Failure → Prop where
  | blocked {e : Error} (h : Blocked host arguments s e) : Stops host arguments s (.error e)
  | dies {c : Crash} (h : Dies host arguments s c) : Stops host arguments s (.crash c)

section Stops

variable {host : Host} {arguments : Arguments} {s : σ}

theorem allOrNothing_done {written : FileTree → Prop} {f : Failure}
    (h : Stops host arguments s f) (t : σ) :
    AllOrNothing host (done host (.error f) t) written (Blocked host arguments s)
      (Dies host arguments s) := by
  cases h with
  | blocked h => exact .nothing rfl rfl rfl h
  | dies h => exact .crashed rfl rfl rfl h

variable {config : Config} {permute : Permutation}
  (hconfig : configOf host arguments = .ok config)
  (hpermute : permutationOf host config = .ok permute)
include hconfig hpermute

/-- A chain stops where the permutation does, and crashes in its first call or not at all. -/
theorem stops_of_hashChain {requested : Option Nat} {outDir : String} {w : Witness} {e : Error}
    (hc : arguments.command = .rescueInput requested outDir)
    (hw : (witnessFor requested s).1 = .ok w) (hwhole : w.Whole)
    (hout : permute.hashChain w.rows = .error e) :
    Stops host arguments s (host.settle config.limit (.error e)) := by
  rcases settle_error host config.limit e with hs | ⟨hs, blind, htimeout⟩
  · rw [hs]
    exact .blocked (.chain hc ⟨config, hconfig, hpermute⟩ hw
      (Permutation.hashChain_eq_error hwhole.rows_ne_nil hout))
  · obtain ⟨a, b, rest, hrows⟩ := hwhole.exists_rows
    obtain ⟨f, hf, hstarts⟩ := permute_of_blind hpermute blind (a ++ b)
    rw [hrows, Permutation.hashChain_of_first hf] at hout
    obtain rfl := Except.error.inj hout
    rw [hs]
    exact .dies (.chain hc hconfig blind hw hrows (hstarts.mp htimeout))

theorem stops_of_ofSeed {given : Option String} {message outDir : String} {seed : Seed} {e : Error}
    (hc : arguments.command = .ziggyKeys given message outDir)
    (hseed : (seedFor given s).1 = .ok seed) (hkeys : KeyPair.ofSeed permute seed = .error e) :
    Stops host arguments s (host.settle config.limit (.error e)) := by
  have hwhy := KeyPair.ofSeed_eq_error.mp hkeys
  rcases settle_error host config.limit e with hs | ⟨hs, blind, program, limit, rfl⟩
  · rw [hs]
    exact .blocked (.derivation hc ⟨config, hconfig, hpermute⟩ hseed hwhy)
  · rcases hwhy with hv | ⟨v, hv, hpv⟩
    · obtain ⟨f, hf⟩ := Seed.secretPreimage_eq_error hv
      contradiction
    · obtain ⟨f, hf, hstarts⟩ := permute_of_blind hpermute blind v
      obtain rfl := Except.error.inj (hpv.symm.trans hf)
      rw [hs]
      exact .dies (.keys hc hconfig blind hseed hv (hstarts.mp ⟨program, limit, rfl⟩))

end Stops

/-- The files of a chain are written where they are received. -/
theorem written_chain {host : Host} {arguments : Arguments} {requested : Option Nat}
    {outDir : String} {permute : Permutation} {w : Witness} {out : Row} {s t : σ}
    (hr : Receives host.tree outDir .rescue) (hp : Serves host arguments permute)
    (hw : witnessFor requested s = (.ok w, t)) (hwhole : w.Whole)
    (hroom : w.chainLength + 1 < 2 ^ 58) (hasked : ∀ n, requested = some n → w.chainLength = n)
    (hout : permute.hashChain w.rows = .ok out) :
    AllOrNothing host
      (finishPair host outDir Scheme.rescue.name (ChainProof.privateInput ⟨w, out⟩)
        (ProverInputs.rescueClaim ⟨w, out⟩).toJson t)
      (ChainWritten host arguments requested outDir s) (Blocked host arguments s)
      (Dies host arguments s) := by
  have hword : w.chainLength < 2 ^ 64 := by omega
  have hsecret : ∀ f ∈ [("witness", Json.array (w.toHexRows.map Json.strings))], f.2.Plain := by
    simp [Json.plain_rows]
  have hclaim : ∀ f ∈ (ProverInputs.rescueClaim ⟨w, out⟩).fields, f.2.Plain := by
    simp [RescueClaim.fields, ProverInputs.rescueClaim, Json.plain_strings, Json.plain_word hword]
  obtain ⟨after, hfinish, hx, hy⟩ := finishPair_of_receives hr hsecret hclaim t
  show AllOrNothing host
    (finishPair host outDir Scheme.rescue.name (.object _) (.object _) t) _ _ _
  rw [hfinish]
  exact .all rfl ⟨permute, _, _, w, out, hp, hx, hy, chainFiles hw hwhole hasked hout⟩

theorem written_keys {host : Host} {arguments : Arguments} {given : Option String}
    {message outDir : String} {permute : Permutation} {seed : Seed} {keys : KeyPair} {s t : σ}
    (hr : Receives host.tree outDir .ziggy) (hp : Serves host arguments permute)
    (hseed : seedFor given s = (.ok seed, t)) (hkeys : KeyPair.ofSeed permute seed = .ok keys) :
    AllOrNothing host
      (finishPair host outDir Scheme.ziggy.name keys.privateInput
        (ProverInputs.ziggyClaim message keys).toJson t)
      (KeysWritten host arguments given message outDir s) (Blocked host arguments s)
      (Dies host arguments s) := by
  obtain ⟨rfl, _⟩ := KeyPair.ofSeed_eq_ok.mp hkeys
  have hsecret : ∀ f ∈ [("private_key", Json.string keys.privateKey.toHex)], f.2.Plain := by
    simp [Json.plain_string]
  have hclaim : ∀ f ∈ (ProverInputs.ziggyClaim message keys).fields, f.2.Plain := by
    simp [ZiggyClaim.fields, ProverInputs.ziggyClaim, Json.plain_string, Json.plain_strings]
  obtain ⟨after, hfinish, hx, hy⟩ := finishPair_of_receives hr hsecret hclaim t
  show AllOrNothing host
    (finishPair host outDir Scheme.ziggy.name (.object _) (.object _) t) _ _ _
  rw [hfinish]
  exact .all rfl ⟨permute, _, _, keys.privateKey, keys.publicKey, hp, hx, hy,
    keyFiles hseed hkeys⟩

theorem run_rescueInput (host : Host) {arguments : Arguments} {requested : Option Nat}
    {outDir : String} (hc : arguments.command = .rescueInput requested outDir)
    (hr : Receives host.tree outDir .rescue) (s : σ) :
    AllOrNothing host (run host arguments s) (ChainWritten host arguments requested outDir s)
      (Blocked host arguments s) (Dies host arguments s) := by
  unfold run
  cases hconfig : configOf host arguments with
  | error e => exact allOrNothing_done (.blocked (.config hconfig)) s
  | ok config =>
    simp only [hc]
    unfold rescueInput
    cases hpermute : permutationOf host config with
    | error e => exact allOrNothing_done (.blocked (.permutation hconfig hpermute)) s
    | ok permute =>
      have hp : Serves host arguments permute := ⟨config, hconfig, hpermute⟩
      have hdrawn := drawn_witnessFor requested s
      dsimp only
      rw [generate_eq]
      cases hw : witnessFor requested s with
      | mk r t =>
        rw [hw] at hdrawn
        cases hdrawn with
        | refused asked h =>
          exact allOrNothing_done (.blocked (.chainLength (asked ▸ hc) h)) t
        | crashed asked h large =>
          exact allOrNothing_done (.dies (.rows (asked ▸ hc) hp h large)) t
        | @drawn w asked whole room =>
          have hfirst : (witnessFor requested s).1 = .ok w := congrArg Prod.fst hw
          simp only [ChainProof.ofWitness]
          cases hout : permute.hashChain w.rows with
          | error e =>
            exact allOrNothing_done (stops_of_hashChain hconfig hpermute hc hfirst whole hout) t
          | ok out => exact written_chain hr hp hw whole room asked hout

theorem run_ziggyKeys (host : Host) {arguments : Arguments} {given : Option String}
    {message outDir : String} (hc : arguments.command = .ziggyKeys given message outDir)
    (hr : Receives host.tree outDir .ziggy) (s : σ) :
    AllOrNothing host (run host arguments s) (KeysWritten host arguments given message outDir s)
      (Blocked host arguments s) (Dies host arguments s) := by
  unfold run
  cases hconfig : configOf host arguments with
  | error e => exact allOrNothing_done (.blocked (.config hconfig)) s
  | ok config =>
    simp only [hc]
    unfold ziggyKeys
    rcases seedFor_cases given s with
      ⟨chosen, seed, t, hread, hseed, hderive⟩ | ⟨text, e, rfl, hread, he⟩
    · rw [hread]
      dsimp only
      cases hpermute : permutationOf host config with
      | error e => exact allOrNothing_done (.blocked (.permutation hconfig hpermute)) s
      | ok permute =>
        have hp : Serves host arguments permute := ⟨config, hconfig, hpermute⟩
        have hfirst : (seedFor given s).1 = .ok seed := congrArg Prod.fst hseed
        dsimp only
        rw [hderive permute]
        cases hkeys : KeyPair.ofSeed permute seed with
        | error e => exact allOrNothing_done (stops_of_ofSeed hconfig hpermute hc hfirst hkeys) t
        | ok keys => exact written_keys hr hp hseed hkeys
    · rw [hread]
      exact allOrNothing_done (.blocked (.key hc he)) s

/-- A command with a reason to crash does so. -/
theorem result_of_dies {host : Host} {arguments : Arguments} {s : σ} {c : Crash}
    (h : Dies host arguments s c) : (run host arguments s).result = .error (.crash c) := by
  cases h with
  | rows hc hp h large =>
    obtain ⟨config, hconfig, hpermute⟩ := hp
    have hw := Witness.random_of_no_room h (Nat.not_lt.mpr large) s
    simp only [run, hconfig, hc, rescueInput, hpermute, generate_eq, witnessFor, hw, Host.settle,
      result_done]
  | @chain requested _ config w a b rest hc hconfig blind hw hrows h =>
    obtain ⟨permute, hpermute⟩ := exists_permutation_of_starts h
    obtain ⟨e, he, hstarts⟩ := permute_of_blind hpermute blind (a ++ b)
    obtain ⟨program, given, rfl⟩ := hstarts.mpr h
    have hout : permute.hashChain w.rows = .error (.timeout program given) := by
      rw [hrows]
      exact Permutation.hashChain_of_first he
    simp only [run, hconfig, hc, rescueInput, hpermute, generate_eq]
    generalize witnessFor requested s = drawn at hw
    obtain ⟨_, t⟩ := drawn
    obtain rfl := hw
    simp only [ChainProof.ofWitness, hout, Except.map, Except.mapError, settle_timeout blind,
      result_done]
  | @keys given _ _ config seed v hc hconfig blind hs hv h =>
    obtain ⟨permute, hpermute⟩ := exists_permutation_of_starts h
    obtain ⟨e, he, hstarts⟩ := permute_of_blind hpermute blind v
    obtain ⟨program, limit, rfl⟩ := hstarts.mpr h
    have hkeys := KeyPair.ofSeed_eq_error.mpr (.inr ⟨v, hv, he⟩)
    rcases seedFor_cases given s with
      ⟨chosen, seed', t, hread, hseed, hderive⟩ | ⟨text, e, rfl, _, hfail⟩
    · obtain rfl : seed' = seed := Except.ok.inj ((congrArg Prod.fst hseed).symm.trans hs)
      simp only [run, hconfig, hc, ziggyKeys, hread, hpermute, hderive, hkeys,
        settle_timeout blind, result_done]
    · have hboth : Except.error e = .ok seed := hfail.symm.trans hs
      contradiction

/-- Nothing is there but the directory that the command is started in. -/
def emptyHost : Host where
  tree := .empty
  environment := none
  permutations _ := none
  provers _ := none
  verifiers _ := none
  scratch := "/tmp"
  elapsed _ _ := 0
  shows _ := true

/-- In the empty tree a relative path is followed from the directory in use. -/
theorem reach_relative {path : String} {l : Location}
    (hpath : path ≠ "" ∧ '\x00' ∉ path.toList ∧ path.utf8ByteSize ≤ FileTree.maxPathBytes)
    (hrelative : ¬ Path.isAbsolute path = true)
    (h : FileTree.empty.follow [] (Path.names path) = .ok l) :
    FileTree.empty.reach path = .ok l := by
  refine FileTree.reach_eq_ok.mpr ⟨FileTree.checkPath_eq_ok.mpr hpath, ?_⟩
  rwa [Location.start, if_neg hrelative]

theorem receives_here (scheme : Scheme) : Receives emptyHost.tree "." scheme := by
  have hjoin : ∀ file, Path.IsName file → Path.join "." file = "./" ++ file := by
    intro file hn
    have hslash : ¬ Path.endsInSlash "." = true := by
      rw [Path.endsInSlash_iff]
      decide
    rw [Path.join_of_isName (by decide) hn, ← Path.endsInSlash, if_neg hslash]
    rfl
  have hreach : FileTree.empty.reach "." = .ok [] :=
    reach_relative (by decide) (by rw [Path.isAbsolute_iff]; decide) (by decide)
  refine receives_of_directory hreach rfl rfl ?_ ?_ ?_ ?_
  · rw [privatePath, hjoin _ (isName_private scheme), FileTree.checkPath_eq_ok]
    cases scheme <;> decide
  · rw [publicPath, hjoin _ (isName_public scheme), FileTree.checkPath_eq_ok]
    cases scheme <;> decide
  · cases scheme <;> decide
  · cases scheme <;> decide

def zeroRow : Row := Vector.replicate 4 .zero

/-- What a program writes that gives a row of zeros. -/
def zeroAnswer : Ended ByteArray where
  code := some 0
  stderr := .empty
  output := (Json.object [("output", Json.strings zeroRow.toHex)]).compact.toUTF8

/-- The permutation is served by a program that answers everything with zeros. -/
def zeroHost : Host :=
  { emptyHost with permutations := fun _ => some fun _ _ => .ended zeroAnswer }

/-- A command with that program. -/
def zeroCommand (command : Command) : Arguments where
  config := none
  permutationCommand := some "permute"
  verbose := false
  command := command

theorem configOf_zero (command : Command) : configOf zeroHost (zeroCommand command) =
    .ok { Config.standard with permutationCommand := some ["permute"] } := by
  have hwords : Text.words "permute" = ["permute"] := by decide +kernel
  simp only [configOf, zeroCommand, hwords, Except.map]
  rfl

theorem permutationProgram_zero : zeroHost.permutationProgram "permute" [] =
    ⟨"permute", true, fun _ => .ended zeroAnswer⟩ := by
  have hreach : zeroHost.tree.reach "permute" = .ok ["permute"] :=
    reach_relative (by decide) (by rw [Path.isAbsolute_iff]; decide) (by decide)
  have hslash : ¬ Path.endsInSlash "permute" = true := by
    rw [Path.endsInSlash_iff]
    decide
  have hlocate : zeroHost.tree.locate "permute" = .ok ["permute"] := by
    simp only [FileTree.locate, hreach, if_neg hslash]
  simp only [Host.permutationProgram, List.any_nil, Bool.false_eq_true, if_false, Program.atPath,
    hlocate]
  rfl

theorem permute_zero {command : Command} {permute : Permutation}
    (h : Serves zeroHost (zeroCommand command) permute) (input : Vector Felt 8) :
    permute input = .ok zeroRow := by
  obtain ⟨config, hconfig, hpermute⟩ := h
  obtain rfl := Except.ok.inj ((configOf_zero command).symm.trans hconfig)
  have hp : permute = Permutation.ofProgram (zeroHost.permutationProgram "permute" [])
      Config.standard.limit := (Except.ok.inj hpermute).symm
  have hanswer : Permutation.ofEnded "permute" zeroAnswer = .ok zeroRow := by decide +kernel
  simp only [hp, permutationProgram_zero, Permutation.ofProgram, Program.start, hanswer]

/-- Nothing keeps a command with that program from its files but a length or a seed. -/
theorem not_blocked_zero {command : Command} {s : σ} {e : Error}
    (hchain : ∀ n outDir, command = .rescueInput (some n) outDir → 0 < n ∧ 3 ∣ n)
    (hkeys : ∀ given message outDir, command = .ziggyKeys given message outDir →
      ∃ seed v, (seedFor given s).1 = .ok seed ∧ seed.secretPreimage = .ok v) :
    ¬ Blocked zeroHost (zeroCommand command) s e := by
  intro h
  cases h with
  | config h => exact nomatch (configOf_zero command).symm.trans h
  | permutation hc h =>
    obtain rfl := Except.ok.inj ((configOf_zero command).symm.trans hc)
    exact nomatch h
  | chainLength hc h => exact h (hchain _ _ hc)
  | chain _ hp _ h =>
    obtain ⟨_, _, _, _, _, _, hrow⟩ := h
    exact nomatch (permute_zero hp _).symm.trans hrow
  | key hc h =>
    obtain ⟨seed, _, hseed, _⟩ := hkeys _ _ _ hc
    exact nomatch hseed.symm.trans h
  | derivation hc hp hs h =>
    obtain ⟨seed, v, hseed, hv⟩ := hkeys _ _ _ hc
    obtain rfl := Except.ok.inj (hseed.symm.trans hs)
    rcases h with h | ⟨_, _, h⟩
    · exact nomatch hv.symm.trans h
    · exact nomatch (permute_zero hp _).symm.trans h

theorem not_dies_zero {command : Command} {s : σ} {c : Crash}
    (hchain : ∀ n outDir, command = .rescueInput (some n) outDir → n + 1 < 2 ^ 58) :
    ¬ Dies zeroHost (zeroCommand command) s c := by
  intro h
  cases h with
  | rows hc _ _ large => exact absurd (hchain _ _ hc) (Nat.not_lt.mpr large)
  | chain _ _ blind => exact nomatch blind
  | keys _ _ blind => exact nomatch blind

omit [RandomSource σ] in
theorem AllOrNothing.files {host : Host} {session : Session σ} {written : FileTree → Prop}
    {blocked : Error → Prop} {dies : Crash → Prop}
    (h : AllOrNothing host session written blocked dies) (hb : ∀ e, ¬ blocked e)
    (hd : ∀ c, ¬ dies c) : session.exitCode = 0 ∧ written session.tree := by
  cases h with
  | all exit files => exact ⟨exit, files⟩
  | nothing _ _ _ reason => exact absurd reason (hb _)
  | crashed _ _ _ reason => exact absurd reason (hd _)

/-- A chain of one instance. -/
def shortChain : Command := .rescueInput (some 3) "."

/-- The keys of the least private key. -/
def leastKeys : Command := .ziggyKeys (some "0x0") defaultMessage "."

/-- A chain of the longest length that the command line takes. -/
def longestChain : Arguments where
  config := none
  permutationCommand := none
  verbose := false
  command := .rescueInput (some (2 ^ 64 - 1)) "."

/-- Keys of a text that is no key. -/
def brokenKeys : Arguments where
  config := none
  permutationCommand := none
  verbose := false
  command := .ziggyKeys (some "0xzz") defaultMessage "."

theorem dies_longestChain (s : σ) : Dies emptyHost longestChain s .capacity :=
  .rows rfl ⟨Config.standard, rfl, rfl⟩ (by decide) (by decide)

theorem seedFor_leastKeys (s : σ) :
    ∃ seed v, (seedFor (some "0x0") s).1 = .ok seed ∧ seed.secretPreimage = .ok v := by
  have hseed : Seed.ofHex "0x0" = .ok ⟨Vector.replicate 32 0⟩ := by decide +kernel
  have hok : (Seed.mk (Vector.replicate 32 0)).secretPreimage.isOk = true := by decide +kernel
  cases hv : (Seed.mk (Vector.replicate 32 0)).secretPreimage with
  | error e => exact nomatch hv ▸ hok
  | ok v => exact ⟨_, v, hseed, hv⟩

end Session
end CommandLine
end ProofTrial
