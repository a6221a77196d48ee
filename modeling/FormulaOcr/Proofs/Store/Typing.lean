import FormulaOcr.Proofs.Recognition.Failures
import FormulaOcr.Proofs.Store.Credentials
import FormulaOcr.Proofs.Store.Stocked
import FormulaOcr.Proofs.Usage.Counting

/-! What frames bring into the store, and what the settings show of it. The store documents its
values as texts and lists of texts, but the message channel hands any value through to it. -/

namespace FormulaOcr

open FormulaOcr.Action FormulaOcr.Localization

/-! Settings that are read are answered, as long as the service can speak and count. -/

namespace Action

variable {t : Translator} (ht : t.Complete)
include ht

theorem settles_fetchBalance {P : World → Prop} (hP : Asking t P) (key : String) :
    Settles P (SiliconFlow.fetchBalance key) := by
  have hreport : Calm P (do
      let response ← SiliconFlow.fetchAccount (.str key)
      if response.isSuccess then
        return some (SiliconFlow.Balance.ofReport (← Action.ofProblem response.json))
      else return none) := by
    apply (calm_send ht hP _ _ _ _ _ _).bind
    intro response
    refine Calm.ite (fun _ => ?_) fun _ => Calm.pure none
    unfold Response.json
    cases Response.jsonOfBytes response.body with
    | ok report => exact Calm.pure _
    | error f =>
      exact (calm_complain ht hP (Complaint.known_one (by decide)).listed).bind fun _ => Calm.pure _
  unfold SiliconFlow.fetchBalance
  split_ifs
  · exact Settles.pure none
  · apply hreport.settles_attempt.bind
    intro result
    cases result <;> exact Settles.pure _

end Action

namespace Channel

end Channel

open Channel

end FormulaOcr
