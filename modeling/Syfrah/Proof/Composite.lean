import Syfrah.ControlPlane.Apply

/-!
# Composites

A composite that succeeds has applied all its members one after another. One that fails has applied
some of them and keeps what they did: it has no effect only if the commands executed up to the first
failure have none.
-/

namespace Syfrah

open StateMachineResponse

/-- Two replicas with the same tables and the same storage state. -/
structure SameData (r r' : Replica) : Prop where
  tables : ∀ n t, r'.sm.tableOf n t = r.sm.tableOf n t
  storage : r'.sm.storage = r.sm.storage

/-- A composite is applied as a whole: when it fails nothing has changed, and when it succeeds its
members were applied one after another, each with a response that is not an error. -/
structure AppliedAsWhole (commands : List StateMachineCommand) (r : Replica) : Prop where
  failed : (applyCommand (.composite commands) r).1.isError = true →
    SameData r (applyCommand (.composite commands) r).2
  succeeded : ∀ results, (applyCommand (.composite commands) r).1 = .composite results →
    applyLog commands r = (results, (applyCommand (.composite commands) r).2) ∧
      results.length = commands.length ∧ ∀ response ∈ results, response.isError = false

/-- The commands that a composite executes: those it consists of, however they are nested, in order
up to the first that fails. -/
def compositeSteps (commands : List StateMachineCommand) (r : Replica) : List Step :=
  Batch.execute applySingle replies (Batch.leavesAll commands) r

theorem isError_applyCommand (commands : List StateMachineCommand) (r : Replica) :
    (applyCommand (.composite commands) r).1.isError =
      (compositeSteps commands r).any fun e => e.reply.isError :=
  (@Batch.apply_spec _ _ _ applySingle replies (.composite commands) r).2

theorem applyCommand_composite_state (commands : List StateMachineCommand) (r : Replica) :
    (applyCommand (.composite commands) r).2 = Batch.finalState r (compositeSteps commands r) :=
  (@Batch.apply_spec _ _ _ applySingle replies (.composite commands) r).1

theorem applyLog_of_composite {commands : List StateMachineCommand} {r : Replica}
    {results : List StateMachineResponse}
    (h : (applyCommand (.composite commands) r).1 = .composite results) :
    applyLog commands r = (results, (applyCommand (.composite commands) r).2) ∧
      results.length = commands.length ∧ ∀ response ∈ results, response.isError = false := by
  have hconclude : Batch.conclude replies (Batch.applyAll applySingle replies commands r).1 =
      .composite results := by
    simpa only [applyCommand, Batch.apply] using h
  have hok : ((Batch.applyAll applySingle replies commands r).1.any fun response =>
      (replies.error? response).isSome) = false := by
    rw [← Batch.conclude_failed, hconclude]
    rfl
  rw [Batch.conclude_of_not_failed hok] at hconclude
  have hresults : (Batch.applyAll applySingle replies commands r).1 = results :=
    StateMachineResponse.composite.inj hconclude
  have hlog : applyLog commands r = Batch.applyAll applySingle replies commands r :=
    (Batch.applyAll_of_not_failed hok).symm
  refine ⟨?_, ?_, fun response hresponse => ?_⟩
  · rw [hlog, applyCommand, Batch.apply, ← hresults]
  · rw [← hresults, ← hlog]
    exact Batch.length_applyLog commands r
  · rw [hresults, List.any_eq_false] at hok
    exact Bool.eq_false_of_not_eq_true (hok response hresponse)

/-- A composite that creates an organisation, and a project in one that does not exist. -/
def failingComposite : List StateMachineCommand :=
  [.single (.createOrg "acme"), .single (.createProject "web" "other")]

end Syfrah
