import ClusterPower.Proofs.Bmc.Conclusions

/-!
Outcomes are about the target that was asked. No command for one target, and no
wait for it, ever ends with an outcome under the name of another.
-/

namespace ClusterPower

namespace Conversation

/-- Every possible outcome is about this target. -/
def Regards (target : Target) (conversation : Conversation Outcome) : Prop :=
  ∀ outcome, conversation.MayEnd outcome → outcome.target = target

end Conversation

namespace Gateway

variable (gateway : Gateway)

theorem polled_target {target : Target} (body : Bytes) :
    (polled target body).target = target := by
  obtain concludes | ⟨-, same⟩ := pollConcludes_polled target body
  · exact concludes.target_eq
  · rw [same]
    rfl

theorem regards_call (command : Command) (target : Target) :
    (gateway.call command target).Regards target := by
  intro outcome ends
  obtain concludes | ⟨-, -, rfl⟩ := gateway.concludes_call command target outcome ends
  · exact concludes.target_eq
  · rfl

theorem regards_awaitOff (target : Target) (pause retries : Nat) :
    (gateway.awaitOff target pause retries).Regards target :=
  fun outcome ends => (gateway.concludes_awaitOff target pause retries outcome ends).target_eq

end Gateway

end ClusterPower
