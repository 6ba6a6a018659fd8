import ProofTrial.BigEndian
import ProofTrial.Blake2s
import ProofTrial.CommandLine.Options
import ProofTrial.Trial.Basic

/-!
A stand-in for provers and verifiers. Its proof is a digest of the parameters and the claim, one
block for each query; verifying computes the proof again and compares. The texts that are
digested are compact and have all names in order, so the proof binds values and not spellings. What
it does and with which files, it is told by its arguments.
-/
namespace ProofTrial.StandIn

/-- How a run ended: its code, what it printed, and the file it wrote. -/
structure Run where
  code : Nat
  stderr : String
  written : Option String
  deriving DecidableEq, Repr

/-- A flag that names a file, with the content that the file has. -/
structure FileFlag where
  path : String
  content : Option ByteArray

structure ProveFlags where
  parameterFile : Option FileFlag
  publicInputFile : Option FileFlag
  privateInputFile : Option FileFlag
  proverConfigFile : Option FileFlag
  generateAnnotations : Bool

/-- The member of a name, nothing when there is none. -/
def member (name : String) (v : Json) : Json := (v.field? name).getD .null

def utf8 (text : String) : List UInt8 := text.toUTF8.data.toList

/-- Blocks of a proof, at least one. -/
def blockCount (parameters : Json) : Nat :=
  match (member "n_queries" (member "fri" (member "stark" parameters))).integer? with
  | some n => max n.toNat 1
  | none => 1

/-- What a block is the digest of. -/
def blockMessage (parameters claim : Json) (i : Nat) : List UInt8 :=
  utf8 parameters.compact ++ (utf8 claim.compact ++ BigEndian.bytes 32 i)

def expectedProof (parameters claim : Json) : String :=
  String.ofList ('0' :: 'x' :: (List.range (blockCount parameters)).flatMap fun i =>
    Hex.bytesDigits (Blake2s.digest (blockMessage parameters claim i)).toList)

/-- The line on the trace shows the first block of the proof. -/
def commitmentLine (proof : String) : String :=
  "P->V[0:32]: /STARK/Original/Commit on Trace: Commitment: Hash(0x" ++
    String.ofList ((proof.toList.take 66).drop 2) ++ ")"

def layerLine (layer step : Nat) : String :=
  "V->P: /STARK/FRI/Commitment/Layer " ++ toString layer ++ ": step " ++ toString step

def queryLine (query : Nat) : String := "P->V: /STARK/FRI/Decommitment/Query " ++ toString query

def annotations (parameters : ProverParameters) (proof : String) : List String :=
  commitmentLine proof :: (parameters.fri.stepList.mapIdx layerLine ++
    (List.range parameters.fri.queries).map queryLine)

/-- The scheme that a claim belongs to. -/
def schemeOf (claim : Json) : Scheme :=
  if (claim.field? "public_key").isSome then .ziggy else .rescue

def readValue (f : FileFlag) : Except Error Json :=
  TextFile.readJson (Json.Node.value Json.maxDepth) f.path f.content

def required (name : String) (f : Option FileFlag) : Except Error FileFlag :=
  match f with
  | some f => .ok f
  | none => .error (.invalidParameter (.flagMissing name))

/-- The parameters that a value stands for. -/
def typed (v : Json) : Except JsonFault ProverParameters :=
  ProverParameters.ofNode (Json.Node.ofJson v)

def artifact (parameters claim : Json) (p : ProverParameters) (annotate : Bool) : Json :=
  let proof := expectedProof parameters claim
  .ofFields [
    ("proof_hex", .string proof),
    ("annotations", .strings (if annotate then annotations p proof else [])),
    ("public_input", claim),
    ("proof_parameters", parameters)]

/-- The text of the artifact. All flags are looked at before any file is. -/
def proof (flags : ProveFlags) : Except Error String := do
  let parameterFile ← required "parameter_file" flags.parameterFile
  let publicInputFile ← required "public_input_file" flags.publicInputFile
  let privateInputFile ← required "private_input_file" flags.privateInputFile
  let parameters ← readValue parameterFile
  let p ← (typed parameters).mapError (.json parameterFile.path)
  let claim ← readValue publicInputFile
  let _ ← readValue privateInputFile
  match flags.proverConfigFile with
  | some f => let _ ← readValue f
  | none => .ok ()
  .ok (artifact parameters claim p flags.generateAnnotations).pretty

def failed (e : Error) : Run := ⟨2, "mock-stark: " ++ e.message ++ "\n", none⟩

def prove (flags : ProveFlags) : Run :=
  match proof flags with
  | .error e => failed e
  | .ok text => ⟨0, "Proof generated successfully.\n", some text⟩

/-- Whether an artifact holds the proof of its own parameters and claim; if so, the
annotations. -/
def check (artifact : Json) : Option (List String) :=
  let parameters := member "proof_parameters" artifact
  let proof := ((member "proof_hex" artifact).string?).getD ""
  match typed parameters with
  | .error _ => none
  | .ok p =>
    if proof = expectedProof parameters (member "public_input" artifact) then
      some (annotations p proof)
    else none

def verify (inFile : FileFlag) (writeAnnotations : Bool) : Run :=
  match readValue inFile with
  | .error e => failed e
  | .ok artifact =>
    let scheme := schemeOf (member "public_input" artifact)
    match check artifact with
    | some lines =>
      ⟨0, scheme.successMarker ++ "\n",
        if writeAnnotations then some (AnnotationLog.ofList lines) else none⟩
    | none => ⟨1, scheme.failureMarker ++ "\n", none⟩

/-- Neither proving nor verifying was asked for. -/
def idle : Run := failed (.invalidParameter .modeMissing)

/-- Options that name a file. -/
def fileOptions : List String := [
  "parameter_file", "public_input_file", "private_input_file", "prover_config_file", "out_file",
  "in_file", "annotation_file"]

def switches : List String := ["generate_annotations", "logtostderr"]

def optionKind? (option : String) : Option CommandLine.OptionKind :=
  if fileOptions.contains option then some .valued
  else if switches.contains option then some .switch
  else none

/-- Options in the order they are found, the last one first. -/
def reader : CommandLine.OptionReader (List (String × String)) where
  kind? _ := optionKind?
  add := CommandLine.addOnce fileOptions.contains
  other _ argument := .error (.unexpected argument)

/-- How a run ended, and the path of the file that it writes, if it does. -/
structure Played where
  run : Run
  target : Option String
  deriving DecidableEq, Repr

/-- What the options ask for, with the files that `find` gives by their paths: with a file to write
to it proves, with a file to read from it verifies. -/
def perform (find : String → Option ByteArray) (options : List (String × String)) : Played :=
  let file (option : String) : Option FileFlag :=
    (options.lookup option).map fun path => ⟨path, find path⟩
  match options.lookup "out_file", file "in_file" with
  | some outFile, _ => {
      run := prove {
        parameterFile := file "parameter_file"
        publicInputFile := file "public_input_file"
        privateInputFile := file "private_input_file"
        proverConfigFile := file "prover_config_file"
        generateAnnotations := (options.lookup "generate_annotations").isSome }
      target := some outFile }
  | none, some inFile =>
    let annotationFile := options.lookup "annotation_file"
    ⟨verify inFile annotationFile.isSome, annotationFile⟩
  | none, none => ⟨idle, none⟩

def play (find : String → Option ByteArray) (arguments : List String) : Played :=
  match reader.read [] arguments with
  | .error fault => ⟨⟨2, "error: " ++ fault.message ++ "\n", none⟩, none⟩
  | .ok options => perform find options

/-- A run that was started, with what it leaves at the path `output`. -/
def ended (output : String) (p : Played) : Launch (Option ByteArray) :=
  .ended {
    code := some p.run.code
    stderr := p.run.stderr.toUTF8
    output := if p.target = some output then p.run.written.map String.toUTF8 else none }

def runProver (call : ProverCall) : Launch (Option ByteArray) :=
  ended call.output (play (SavedFile.contentAt call.files) call.arguments)

def prover (path : String) : Prover := ⟨path, true, runProver⟩

def runVerifier (call : VerifierCall) : Launch (Option ByteArray) :=
  ended call.output (play (SavedFile.contentAt call.files) call.arguments)

def verifier (path : String) : Verifier := ⟨path, true, runVerifier⟩

def readRequestField (input : Option (List String)) (name : String) (x : Json.Node) :
    Except JsonFault (Option (List String)) :=
  match name with
  | "input" => Json.Node.once input (x.expectList Json.Node.expectString)
  | _ => x.skip.map fun _ => input

/-- The words that a permutation program is asked to permute. -/
def readRequest (text : String) : Except JsonFault (List String) :=
  Json.decodeText (Json.Node.expectRecord ["input"] readRequestField none Json.Node.required) text

/-- The digest of the input's words, cut into four words and reduced. -/
def hashing : Permutation := fun input =>
  let message := input.toList.flatMap fun x => BigEndian.bytes 8 x.val
  let digest := (Blake2s.digest message).toList
  .ok (Vector.ofFn fun i =>
    Felt.ofNatMod (BigEndian.value ((digest.drop (8 * i.val)).take 8)))

def response (row : Row) : String := (Json.object [("output", Json.strings row.toHex)]).compact

/-- What a permutation program answers to a request. -/
def permuted (request : String) : Except Error String := do
  let words ← (readRequest request).mapError (.json "permutation request")
  let first ← Row.ofHex (words.take wordSize)
  let second ← Row.ofHex (words.drop wordSize)
  (hashing (first ++ second)).map response

/-- The stand-in run as a permutation program. -/
def runPermutation (request : String) : Launch ByteArray :=
  match permuted request with
  | .ok text => .ended { code := some 0, stderr := .empty, output := text.toUTF8 }
  | .error e => .ended { code := some 2, stderr := e.message.toUTF8, output := .empty }

end ProofTrial.StandIn
