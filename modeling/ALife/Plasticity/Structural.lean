/-
# Bounded structural plasticity

`StructuralPlasticityState` (`crates/alife_core/src/structural_plasticity.rs`).
Co-activation evidence is collected into candidates, a bounded row for each
region; a structural phase promotes the best candidates to connections and
prunes the weak ones.  `u32` fields are natural numbers whose additions
saturate where the source's do, the counters of a receipt are cut to 16 bits as
its casts do, and a region is a `U16`.  `compute` reads the connections and
changes nothing; it is left out.
-/

import ALife.Machine.Binary32
import ALife.Core.CanonicalDigest
import ALife.Machine.Checks
import ALife.Machine.OrderedMap
import ALife.Machine.SortedNames

namespace ALife

open Machine

/-- A `u16`. -/
abbrev U16 := Fin (2 ^ 16)

/-- `saturating_add` of two `u32`. -/
def satAdd (a b : ℕ) : ℕ := min (a + b) (2 ^ 32 - 1)

/-- `MAX_CANDIDATES_PER_REGION`. -/
def maxCandidatesPerRegion : ℕ := 8

/-- `MAX_REGIONS_PER_STATE`. -/
def maxRegionsPerState : ℕ := 16

/-- `MAX_EVIDENCE_PER_PHASE`. -/
def maxEvidencePerPhase : ℕ := 256

/-- `MAX_ACCEPTED_PER_PHASE`. -/
def maxAcceptedPerPhase : ℕ := 4

/-- `MAX_STRUCTURAL_EDGES`. -/
def maxStructuralEdges : ℕ := 64

/-- `MAX_WEIGHT_SCORE`. -/
def maxWeightScore : ℕ := 1000

/-- `RECEIPT_FNV_OFFSET`. -/
def receiptFnvOffset : UInt64 := 14695981039346656037

/-- `RECEIPT_FNV_PRIME`. -/
def receiptFnvPrime : UInt64 := 1099511628211

/-- `StructuralPlasticityError`; the variants of `compute` are left out. -/
inductive StructuralPlasticityError where
  | invalidConfig | evidenceBudgetExceeded | regionBudgetExceeded | nodeOutOfRange
  | connectionNotFound | duplicateConnection | structuralBudgetExhausted
  deriving DecidableEq, Repr

/-- `StructuralPlasticityConfig`. -/
structure StructuralPlasticityConfig where
  maxCandidatesPerRegion : ℕ
  maxRegions : ℕ
  maxAcceptedPerPhase : ℕ
  maxStructuralEdges : ℕ
  minCandidateScore : ℕ
  pruneScoreBelow : ℕ
  deriving DecidableEq, Repr

/-- `StructuralPlasticityConfig::validate`. -/
def StructuralPlasticityConfig.validate (config : StructuralPlasticityConfig) :
    Except StructuralPlasticityError Unit :=
  failIf (config.maxCandidatesPerRegion = 0
      ∨ ALife.maxCandidatesPerRegion < config.maxCandidatesPerRegion
      ∨ config.maxRegions = 0 ∨ maxRegionsPerState < config.maxRegions
      ∨ config.maxAcceptedPerPhase = 0
      ∨ ALife.maxAcceptedPerPhase < config.maxAcceptedPerPhase
      ∨ config.maxStructuralEdges = 0
      ∨ ALife.maxStructuralEdges < config.maxStructuralEdges)
    .invalidConfig

/-- `CoactivationEvidence`. -/
structure CoactivationEvidence where
  region : U16
  source : ℕ
  target : ℕ
  coactivation : ℕ
  eligibility : ℕ
  conceptGapSupport : ℕ
  deriving DecidableEq, Repr

/-- `StructuralDiscoveryReceipt`. -/
structure StructuralDiscoveryReceipt where
  evidenceItems : ℕ
  candidateComparisons : ℕ
  candidatesKept : ℕ
  deterministicDigest : UInt64
  deriving DecidableEq, Repr

/-- `StructuralWorkReceipt`. -/
structure StructuralWorkReceipt where
  candidateComparisons : ℕ
  candidatesKept : ℕ
  acceptedEdges : ℕ
  prunedEdges : ℕ
  activeEdges : ℕ
  deterministicDigest : UInt64
  deriving DecidableEq, Repr

/-- `StructuralCandidate`. -/
structure StructuralCandidate where
  region : U16
  source : ℕ
  target : ℕ
  coactivation : ℕ
  eligibility : ℕ
  conceptGapSupport : ℕ
  age : ℕ
  score : ℕ
  deriving DecidableEq, Repr

/-- `SparseConnection`. -/
structure SparseConnection where
  source : ℕ
  target : ℕ
  weight : F32
  score : ℕ
  age : ℕ
  deriving DecidableEq, Repr

/-- The pair of neurons a candidate would connect. -/
def StructuralCandidate.pair (c : StructuralCandidate) : ℕ × ℕ := (c.source, c.target)

/-- The pair of neurons a piece of evidence is about. -/
def CoactivationEvidence.pair (item : CoactivationEvidence) : ℕ × ℕ := (item.source, item.target)

/-- The pair of neurons a connection joins. -/
def SparseConnection.pair (edge : SparseConnection) : ℕ × ℕ := (edge.source, edge.target)

/-- `candidate_score`. -/
def candidateScore (c : StructuralCandidate) : ℕ :=
  satAdd (satAdd c.coactivation c.eligibility) c.conceptGapSupport

/-- What `candidate_order` compares: the higher score first, then region, source and target. -/
def candidateKey (c : StructuralCandidate) : ℕᵒᵈ ×ₗ U16 ×ₗ ℕ ×ₗ ℕ :=
  toLex (OrderDual.toDual c.score, toLex (c.region, toLex (c.source, c.target)))

/-- `candidate_order`. -/
def candidateOrder (left right : StructuralCandidate) : Ordering :=
  compare (candidateKey left) (candidateKey right)

/-- The key by which `discover_candidates` orders the evidence. -/
def evidenceKey (item : CoactivationEvidence) : U16 ×ₗ ℕ ×ₗ ℕ ×ₗ ℕ ×ₗ ℕ ×ₗ ℕ :=
  toLex (item.region, toLex (item.source, toLex (item.target,
    toLex (item.coactivation, toLex (item.eligibility, item.conceptGapSupport)))))

/-- `score_to_weight`. -/
def scoreToWeight (score : ℕ) : F32 := F32.ofQuotient (min score maxWeightScore) maxWeightScore

/-- `mix_digest`. -/
def mixDigest (digest : UInt64) (value : ℕ) : UInt64 :=
  (leBytes64 (UInt64.ofNat value)).foldl
    (fun digest byte => (digest ^^^ byte.toUInt64) * receiptFnvPrime) digest

/-- `StructuralPlasticityState`. -/
structure StructuralPlasticityState where
  neuronCount : ℕ
  config : StructuralPlasticityConfig
  candidates : OrderedMap U16 (List StructuralCandidate)
  connections : OrderedMap ℕ (List SparseConnection)
  lastCandidateComparisons : ℕ
  deriving DecidableEq

namespace StructuralPlasticityState

/-- `StructuralPlasticityState::new`. -/
def new (neuronCount : ℕ) (config : StructuralPlasticityConfig) :
    Except StructuralPlasticityError StructuralPlasticityState := do
  failIf (neuronCount = 0) .nodeOutOfRange
  config.validate
  .ok ⟨neuronCount, config, ∅, ∅, 0⟩

/-- `candidate_count`. -/
def candidateCount (s : StructuralPlasticityState) : ℕ := s.candidates.total List.length

/-- `connection_count`. -/
def connectionCount (s : StructuralPlasticityState) : ℕ := s.connections.total List.length

/-! ### The contract -/

/-- The checks of one candidate, behind the pairs already seen in its region. -/
def checkCandidate (s : StructuralPlasticityState) (region : U16) (identities : List (ℕ × ℕ))
    (candidate : StructuralCandidate) : Except StructuralPlasticityError (List (ℕ × ℕ)) := do
  failIf (candidate.region ≠ region
      ∨ s.neuronCount ≤ candidate.source
      ∨ s.neuronCount ≤ candidate.target
      ∨ candidate.source = candidate.target
      ∨ (candidate.coactivation = 0 ∧ candidate.eligibility = 0)
      ∨ candidate.score ≠ candidateScore candidate
      ∨ candidate.score < s.config.minCandidateScore
      ∨ candidate.pair ∈ identities)
    .nodeOutOfRange
  .ok (identities ++ [candidate.pair])

/-- The checks of one region. -/
def checkRegion (s : StructuralPlasticityState) (row : U16 × List StructuralCandidate) :
    Except StructuralPlasticityError Unit := do
  failIf (row.2 = [] ∨ s.config.maxCandidatesPerRegion < row.2.length) .structuralBudgetExhausted
  let _ ← row.2.foldlM (s.checkCandidate row.1) []
  failIf ((row.2.zip row.2.tail).any fun pair => candidateOrder pair.1 pair.2 = .gt) .invalidConfig

/-- The checks of one connection under a target. -/
def checkEdge (s : StructuralPlasticityState) (target : ℕ) (edge : SparseConnection) :
    Except StructuralPlasticityError Unit :=
  failIf (edge.target ≠ target
      ∨ s.neuronCount ≤ edge.source
      ∨ edge.source = edge.target
      ∨ edge.weight.isFinite = false
      ∨ edge.weight.bits ≠ (scoreToWeight edge.score).bits)
    .nodeOutOfRange

/-- The checks of one target. -/
def checkTarget (s : StructuralPlasticityState) (row : ℕ × List SparseConnection) :
    Except StructuralPlasticityError Unit := do
  failIf (s.neuronCount ≤ row.1 ∨ row.2 = []) .nodeOutOfRange
  row.2.foldlM (fun _ edge => s.checkEdge row.1 edge) ()
  failIf ((row.2.zip row.2.tail).any fun pair => pair.2.source ≤ pair.1.source)
    .duplicateConnection

/-- `StructuralPlasticityState::validate_contract`. -/
def validateContract (s : StructuralPlasticityState) : Except StructuralPlasticityError Unit := do
  failIf (s.neuronCount = 0) .nodeOutOfRange
  s.config.validate
  failIf (s.config.maxRegions < s.candidates.size
      ∨ s.config.maxStructuralEdges < s.connectionCount
      ∨ maxEvidencePerPhase * maxCandidatesPerRegion < s.lastCandidateComparisons)
    .structuralBudgetExhausted
  s.candidates.entries.foldlM (fun _ row => s.checkRegion row) ()
  s.connections.entries.foldlM (fun _ row => s.checkTarget row) ()

/-- The wire form has the fields of the state. -/
structure Wire where
  neuronCount : ℕ
  config : StructuralPlasticityConfig
  candidates : OrderedMap U16 (List StructuralCandidate)
  connections : OrderedMap ℕ (List SparseConnection)
  lastCandidateComparisons : ℕ

/-- The derived `Serialize`. -/
def serialize (s : StructuralPlasticityState) : Wire :=
  ⟨s.neuronCount, s.config, s.candidates, s.connections, s.lastCandidateComparisons⟩

/-- `StructuralPlasticityState::deserialize`. -/
def deserialize (wire : Wire) : Except StructuralPlasticityError StructuralPlasticityState := do
  let state : StructuralPlasticityState :=
    ⟨wire.neuronCount, wire.config, wire.candidates, wire.connections,
      wire.lastCandidateComparisons⟩
  state.validateContract
  .ok state

/-! ### The receipts' digest -/

/-- The digest with the candidates of a region mixed in. -/
def mixRegion (digest : UInt64) (row : U16 × List StructuralCandidate) : UInt64 :=
  row.2.foldl (fun digest candidate =>
    mixDigest (mixDigest (mixDigest (mixDigest digest candidate.source) candidate.target)
      candidate.score) candidate.age) (mixDigest digest row.1)

/-- The digest with the connections of a target mixed in. -/
def mixTarget (digest : UInt64) (row : ℕ × List SparseConnection) : UInt64 :=
  row.2.foldl (fun digest edge =>
    mixDigest (mixDigest (mixDigest digest edge.source) edge.score) edge.age)
    (mixDigest digest row.1)

/-- `deterministic_digest`. -/
def deterministicDigest (s : StructuralPlasticityState) : UInt64 :=
  s.connections.entries.foldl mixTarget
    (s.candidates.entries.foldl mixRegion (mixDigest receiptFnvOffset s.neuronCount))

/-! ### Discovery -/

/-- The candidate with the evidence of an item added. -/
def strengthened (candidate : StructuralCandidate) (item : CoactivationEvidence) :
    StructuralCandidate :=
  let next := { candidate with
    coactivation := satAdd candidate.coactivation item.coactivation
    eligibility := satAdd candidate.eligibility item.eligibility
    conceptGapSupport := satAdd candidate.conceptGapSupport item.conceptGapSupport
    age := satAdd candidate.age 1 }
  { next with score := candidateScore next }

/-- The candidate that the first evidence of a pair makes. -/
def fresh (item : CoactivationEvidence) (score : ℕ) : StructuralCandidate where
  region := item.region
  source := item.source
  target := item.target
  coactivation := item.coactivation
  eligibility := item.eligibility
  conceptGapSupport := item.conceptGapSupport
  age := 0
  score := score

/-- The first candidate of the item's pair takes the evidence; without one, a new
candidate is pushed. -/
def note (item : CoactivationEvidence) (score : ℕ) :
    List StructuralCandidate → List StructuralCandidate
  | [] => [fresh item score]
  | candidate :: rest =>
    if candidate.source = item.source ∧ candidate.target = item.target then
      strengthened candidate item :: rest
    else candidate :: note item score rest

/-- One turn of the loop of `discover_candidates`, on the candidates and the comparisons. -/
def discoverItem (config : StructuralPlasticityConfig)
    (found : OrderedMap U16 (List StructuralCandidate) × ℕ) (item : CoactivationEvidence) :
    OrderedMap U16 (List StructuralCandidate) × ℕ :=
  if item.source = item.target ∨ (item.coactivation = 0 ∧ item.eligibility = 0) then found
  else
    let score := satAdd (satAdd item.coactivation item.eligibility) item.conceptGapSupport
    if score < config.minCandidateScore then found
    else
      let row := (found.1.get? item.region).getD []
      (found.1.insert item.region
        ((sortByKey candidateKey (note item score row)).take config.maxCandidatesPerRegion),
        satAdd found.2 (row.length % 2 ^ 32))

/-- The regions of the evidence that have no candidates yet. -/
def newRegions (s : StructuralPlasticityState) (evidence : List CoactivationEvidence) : List U16 :=
  (evidence.map (·.region)).dedup.filter fun region => !s.candidates.contains region

/-- The state that the loop of `discover_candidates` leaves. -/
def discovered (s : StructuralPlasticityState) (evidence : List CoactivationEvidence) :
    StructuralPlasticityState :=
  let found := (sortByKey evidenceKey evidence).foldl (discoverItem s.config) (s.candidates, 0)
  { s with candidates := found.1, lastCandidateComparisons := found.2 }

/-- `StructuralPlasticityState::discover_candidates`. -/
def discoverCandidates (evidence : List CoactivationEvidence) :
    EStateM StructuralPlasticityError StructuralPlasticityState StructuralDiscoveryReceipt := do
  let s ← get
  ofResult (failIf (maxEvidencePerPhase < evidence.length) .evidenceBudgetExceeded)
  ofResult (failIf (s.config.maxRegions < s.candidates.size + (s.newRegions evidence).length)
    .regionBudgetExceeded)
  ofResult (evidence.foldlM (fun _ item =>
    failIf (s.neuronCount ≤ item.source ∨ s.neuronCount ≤ item.target) .nodeOutOfRange) ())
  let next := s.discovered evidence
  set next
  pure
    { evidenceItems := evidence.length % 2 ^ 16
      candidateComparisons := next.lastCandidateComparisons
      candidatesKept := next.candidateCount % 2 ^ 16
      deterministicDigest := next.deterministicDigest }

/-! ### The structural phase -/

/-- `has_connection`. -/
def hasConnection (s : StructuralPlasticityState) (source target : ℕ) : Bool :=
  (s.connections.get? target).any fun edges => edges.any fun edge => edge.source = source

/-- `remove_candidate`. -/
def removeCandidate (s : StructuralPlasticityState) (removed : StructuralCandidate) :
    StructuralPlasticityState :=
  match s.candidates.get? removed.region with
  | none => s
  | some row =>
    let kept := row.filter fun candidate =>
      candidate.source ≠ removed.source ∨ candidate.target ≠ removed.target
    if kept = [] then { s with candidates := s.candidates.erase removed.region }
    else { s with candidates := s.candidates.insert removed.region kept }

/-- `insert_connection`. -/
def insertConnection (connection : SparseConnection) :
    EStateM StructuralPlasticityError StructuralPlasticityState Unit := do
  let s ← get
  let edges := (s.connections.get? connection.target).getD []
  ofResult (failIf (∃ edge ∈ edges, edge.source = connection.source) .duplicateConnection)
  set { s with
    connections := s.connections.insert connection.target
      (sortByKey (·.source) (edges ++ [connection])) }

/-- The connection that a candidate becomes. -/
def connectionOf (candidate : StructuralCandidate) : SparseConnection where
  source := candidate.source
  target := candidate.target
  weight := scoreToWeight candidate.score
  score := candidate.score
  age := candidate.age

/-- The loop of `apply_structural_phase` over the ordered candidates; `accepted` is its
counter. -/
def acceptCandidates : List StructuralCandidate → ℕ →
    EStateM StructuralPlasticityError StructuralPlasticityState ℕ
  | [], accepted => pure accepted
  | candidate :: rest, accepted => do
    let s ← get
    if s.config.maxAcceptedPerPhase ≤ accepted
        ∨ s.config.maxStructuralEdges ≤ s.connectionCount then
      pure accepted
    else if s.hasConnection candidate.source candidate.target then
      set (s.removeCandidate candidate)
      acceptCandidates rest accepted
    else if (scoreToWeight candidate.score).le F32.zero then
      acceptCandidates rest accepted
    else
      insertConnection (connectionOf candidate)
      modify (·.removeCandidate candidate)
      acceptCandidates rest (accepted + 1)

/-- The connections of a target that `prune_weak_connections_internal` keeps. -/
def keptEdges (s : StructuralPlasticityState) (edges : List SparseConnection) :
    List SparseConnection :=
  edges.filter fun edge => s.config.pruneScoreBelow ≤ edge.score

/-- `prune_weak_connections_internal`: the pruned state, and how many connections went. -/
def pruneWeakConnections (s : StructuralPlasticityState) : StructuralPlasticityState × ℕ :=
  ({ s with
      connections := (s.connections.mapValues s.keptEdges).filter fun row => row.2 ≠ [] },
    s.connections.total fun edges => edges.length - (s.keptEdges edges).length)

/-- The candidates of all regions in `candidate_order`. -/
def orderedCandidates (s : StructuralPlasticityState) : List StructuralCandidate :=
  sortByKey candidateKey s.candidates.values.flatten

/-- `StructuralPlasticityState::apply_structural_phase`. -/
def applyStructuralPhase :
    EStateM StructuralPlasticityError StructuralPlasticityState StructuralWorkReceipt := do
  let s ← get
  let accepted ← acceptCandidates s.orderedCandidates 0
  let grown ← get
  let (pruned, prunedEdges) := grown.pruneWeakConnections
  let next := { pruned with lastCandidateComparisons := 0 }
  set next
  pure
    { candidateComparisons := s.lastCandidateComparisons
      candidatesKept := next.candidateCount % 2 ^ 16
      acceptedEdges := accepted % 2 ^ 16
      prunedEdges := prunedEdges % 2 ^ 16
      activeEdges := next.connectionCount % 2 ^ 16
      deterministicDigest := next.deterministicDigest }

/-! ### Support of an edge -/

/-- The first edge from the source takes the support as its score. -/
def supported (source support : ℕ) : List SparseConnection → Option (List SparseConnection)
  | [] => none
  | edge :: rest =>
    if edge.source = source then
      some ({ edge with score := support, weight := scoreToWeight support } :: rest)
    else (supported source support rest).map (edge :: ·)

/-- `StructuralPlasticityState::record_edge_support`. -/
def recordEdgeSupport (source target support : ℕ) :
    EStateM StructuralPlasticityError StructuralPlasticityState Unit := do
  let s ← get
  ofResult (failIf (s.neuronCount ≤ source ∨ s.neuronCount ≤ target) .nodeOutOfRange)
  let edges ← ofResult
    (getOr ((s.connections.get? target).bind (supported source support)) .connectionNotFound)
  set { s with connections := s.connections.insert target edges }

end StructuralPlasticityState

end ALife
