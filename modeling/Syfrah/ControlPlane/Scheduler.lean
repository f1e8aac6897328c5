import Syfrah.Lib.Text
import Syfrah.Org.Types

/-!
# The placement scheduler

Candidates are filtered and scored, and the best one is taken; names break ties. The scores are values
of any linear order. The admission check on the target node answers as it likes: it has a state of its
own.
-/

namespace Syfrah

namespace Scheduler

structure PlacementConstraints where
  zone : Option String := none
  nodeSelector : Labels := ∅
  tolerations : List String := []
  antiAffinityGroup : Option String := none
  spreadTopology : Option String := none

def PlacementConstraints.summary (constraints : PlacementConstraints) : String :=
  let parts := (constraints.zone.map fun z => s!"zone={z}").toList ++
    constraints.nodeSelector.toList.map fun (k, v) => s!"{k}={v}"
  if parts.isEmpty then "none" else ", ".intercalate parts

structure PlacementDecision (σ : Type) where
  hypervisorId : String
  hypervisorAddr : String
  score : σ
  isLocalFallback : Bool
deriving DecidableEq

structure SchedulerError where
  message : String
  constraintsSummary : String
deriving DecidableEq

structure HypervisorCandidate where
  id : String
  name : String
  region : String
  zone : String
  state : String
  labels : Labels
  taints : List String
  allocatableVcpus : ℕ
  allocatableMemoryMb : ℕ
  usedVcpus : ℕ
  usedMemoryMb : ℕ
  instanceCount : ℕ
  fabricIpv6 : String

namespace HypervisorCandidate

def effectText : TaintEffect → String
  | .noSchedule => "NoSchedule"
  | .noExecute => "NoExecute"

def taintText (t : Taint) : String :=
  match t.value with
  | some v => s!"{t.key}={v}:{effectText t.effect}"
  | none => s!"{t.key}:{effectText t.effect}"

def fromHypervisor (hv : Hypervisor) : HypervisorCandidate where
  id := hv.id
  name := hv.name
  region := hv.region
  zone := hv.zone
  state := hv.state.display
  labels := hv.labels
  taints := hv.taints.map taintText
  allocatableVcpus := hv.capacity.allocatableVcpus
  allocatableMemoryMb := hv.capacity.allocatableMemoryMb
  usedVcpus := hv.capacity.usedVcpus
  usedMemoryMb := hv.capacity.usedMemoryMb
  instanceCount := 0
  fabricIpv6 := hv.fabricIpv6

def availableVcpus (c : HypervisorCandidate) : ℕ := c.allocatableVcpus - c.usedVcpus

def availableMemoryMb (c : HypervisorCandidate) : ℕ := c.allocatableMemoryMb - c.usedMemoryMb

/-- Only taints whose text has the word `NoSchedule` keep a VM away. -/
def tolerated (c : HypervisorCandidate) (tolerations : List String) : Bool :=
  c.taints.all fun taint => !(Text.contains taint "NoSchedule" && !tolerations.contains taint)

/-- The filter. Capacity that is not reported yet is not checked. -/
def passes (c : HypervisorCandidate) (vcpus memoryMb : ℕ) (constraints : PlacementConstraints)
    (excluded : List String) : Bool :=
  c.state == "Available" && !excluded.contains c.name && constraints.zone.all (c.zone == ·) &&
    (constraints.nodeSelector.toList.all fun (key, value) => c.labels[key]? == some value) &&
    c.tolerated constraints.tolerations &&
    (c.allocatableVcpus == 0 && c.allocatableMemoryMb == 0 ||
      vcpus ≤ c.availableVcpus && memoryMb ≤ c.availableMemoryMb)

end HypervisorCandidate

/-! ### One decision -/

section Schedule

variable {σ : Type} [LinearOrder σ] [Zero σ]

/-- The order of the scored candidates: higher scores first, then names. -/
def before (score : HypervisorCandidate → σ) (a b : HypervisorCandidate) : Bool :=
  if score a = score b then a.name ≤ b.name else score b < score a

/-- A call of the scheduler: the node it runs on, the request, and the scores under the placements that
exist. -/
structure Request (σ : Type) where
  localNode : String
  localAddr : String
  vcpus : ℕ
  memoryMb : ℕ
  constraints : PlacementConstraints
  score : HypervisorCandidate → σ

def noMatch (constraints : PlacementConstraints) : SchedulerError :=
  let parts := (constraints.zone.map fun z => s!"zone={z}").toList ++
    constraints.nodeSelector.toList.map fun (k, v) => s!"selector={k}={v}"
  let summary := if parts.isEmpty then "no constraints" else ", ".intercalate parts
  ⟨s!"no hypervisor matches constraints: {summary}", summary⟩

def schedule (request : Request σ) (candidates : List HypervisorCandidate) (excluded : List String) :
    Except SchedulerError (PlacementDecision σ) :=
  -- with no data at all the node places on itself
  if candidates.isEmpty then .ok ⟨request.localNode, request.localAddr, 0, true⟩
  else
    match (candidates.filter fun c =>
        c.passes request.vcpus request.memoryMb request.constraints excluded).mergeSort
          (before request.score) with
    | [] => .error (noMatch request.constraints)
    | winner :: _ => .ok ⟨winner.name, winner.fabricIpv6, request.score winner, false⟩

/-! ### Retries -/

variable {W : Type}

/-- The answer, and the checks made on the way. -/
structure Attempts (σ : Type) where
  result : Except SchedulerError (PlacementDecision σ)
  checks : List (PlacementDecision σ × Except String Unit)

/-- The loop of `scheduleWithRetry`, with the attempts that are left. -/
def retry (request : Request σ) (candidates : List HypervisorCandidate) (maxRetries : ℕ)
    (admissionCheck : PlacementDecision σ → W → Except String Unit × W) :
    ℕ → List String → W → Attempts σ
  | 0, excluded, _ =>
    { result := .error
        ⟨s!"all {excluded.length} hypervisors rejected admission after {maxRetries + 1} retries",
          request.constraints.summary⟩
      checks := [] }
  | attempts + 1, excluded, w =>
    match schedule request candidates excluded with
    | .error e => ⟨.error e, []⟩
    | .ok decision =>
      if decision.isLocalFallback then ⟨.ok decision, []⟩
      else
        match admissionCheck decision w with
        | (.ok (), _) => ⟨.ok decision, [(decision, .ok ())]⟩
        | (.error reason, w) =>
          let rest := retry request candidates maxRetries admissionCheck attempts
            (excluded ++ [decision.hypervisorId]) w
          ⟨rest.result, (decision, .error reason) :: rest.checks⟩

def scheduleWithRetry (request : Request σ) (candidates : List HypervisorCandidate) (maxRetries : ℕ)
    (admissionCheck : PlacementDecision σ → W → Except String Unit × W) (w : W) : Attempts σ :=
  retry request candidates maxRetries admissionCheck (maxRetries + 1) [] w

end Schedule

end Scheduler

end Syfrah
