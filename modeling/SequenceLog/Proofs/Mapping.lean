import SequenceLog.CloudWatch.ErrorMapping
/-! What the mapping of the service's errors keeps. An error of the service tells the same about the
expected token as the fault of the append that it becomes, and an error with any other code tells
nothing, whatever its members say. Main statement: `mapping_keeps_expected`. -/
namespace SequenceLog

namespace ServiceError
variable {e : ServiceError}

/-- The token is told as data where the answer holds it, even as null or empty, and else by the same
wording: the rebuilt message is the heading with the service's message. -/
theorem evidence_appendFault (mismatch : e.code = some (.text Rejection.mismatchCode)) :
    e.appendFault.evidence = (Fault.service e).evidence := by
  rw [Fault.evidence, evidence, if_pos mismatch, appendFault, if_pos mismatch]
  cases e.expected <;> rfl

section Other
variable (other : e.code ≠ some (.text Rejection.mismatchCode))
include other

theorem evidence_other : (Fault.service e).evidence = .nothing := if_neg other

/-- The faults of all other errors begin with words of their own, so that nothing after them matters. -/
theorem appendFault_unparsed :
    ∃ text, e.appendFault.evidence = .wording text ∧ Rejection.parse text = none ∧
      Rejection.parseNotices text = [] := by
  rw [appendFault, if_neg other]
  split <;> exact ⟨_, rfl, rfl, rfl⟩

theorem expected?_other :
    e.appendFault.expected? = none ∧ (Fault.service e).expected? = none := by
  obtain ⟨text, wording, unparsed, -⟩ := appendFault_unparsed other
  rw [Fault.expected?, Fault.expected?, wording, evidence_other other]
  exact ⟨unparsed, rfl⟩

theorem expectedNotices_other :
    e.appendFault.expectedNotices = [] ∧ (Fault.service e).expectedNotices = [] := by
  obtain ⟨text, wording, -, unnoticed⟩ := appendFault_unparsed other
  rw [Fault.expectedNotices, Fault.expectedNotices, wording, evidence_other other]
  exact ⟨unnoticed, rfl⟩

end Other
end ServiceError

/-- For every error of the service: the fault that an append raises for it tells the same expected token
as the error itself and is reported alike, and both tell none when the code is not that of a mismatch,
whatever code and message contain. -/
theorem mapping_keeps_expected (e : ServiceError) :
    e.appendFault.expected? = (Fault.service e).expected? ∧
      e.appendFault.expectedNotices = (Fault.service e).expectedNotices ∧
      (e.code ≠ some (.text Rejection.mismatchCode) →
        e.appendFault.expected? = none ∧ (Fault.service e).expected? = none) := by
  by_cases mismatch : e.code = some (.text Rejection.mismatchCode)
  · have same := ServiceError.evidence_appendFault mismatch
    refine ⟨?_, ?_, fun other => absurd mismatch other⟩
    · rw [Fault.expected?, Fault.expected?, same]
    · rw [Fault.expectedNotices, Fault.expectedNotices, same]
  · obtain ⟨untold, untold'⟩ := ServiceError.expected?_other mismatch
    obtain ⟨unnoticed, unnoticed'⟩ := ServiceError.expectedNotices_other mismatch
    exact ⟨untold.trans untold'.symm, unnoticed.trans unnoticed'.symm, fun _ => ⟨untold, untold'⟩⟩

/-- An error whose code and message read like a mismatch, with line breaks and a token as data. -/
def imitation : ServiceError :=
  ⟨some (.text "InvalidSequenceTokenException: next: token\n"),
    some (.text "\nInvalidSequenceTokenException: The next expected sequenceToken is: token"),
    some (.text "token"), false, none, "PutLogEvents"⟩

theorem mapping_keeps_expected_imitation :
    imitation.code ≠ some (.text Rejection.mismatchCode) ∧
      imitation.appendFault.expected? = none ∧ (Fault.service imitation).expected? = none := by
  have other : imitation.code ≠ some (.text Rejection.mismatchCode) := by decide
  exact ⟨other, (mapping_keeps_expected imitation).2.2 other⟩

end SequenceLog
