import TableExplorer.Proofs.Api.Complaints
import TableExplorer.Proofs.Api.Handling
import TableExplorer.Proofs.FailedQueries
import TableExplorer.Proofs.Sheet.Workbooks

/-!
# Internal errors

A request goes wrong inside in a few ways, and in no other. Its body is refused by a complaint about
an input that JSON cannot show, or holds half of a surrogate pair and is left to the framework. Its
file cannot be rendered, or the name of the file does not fit into a header. The log that it asks
for cannot be read, or not by a beginning that is too long, or the number that it asks for is beyond
64 bits. What it is answered cannot be written or sent: an integer is too long, or, as the framework
has it, the answer is nested too deep or shows half of a surrogate pair.

`Endpoint.Fails` has what goes wrong before there is an answer endpoint by endpoint, `BreaksIff`
says of an outcome that it goes wrong in one of these ways exactly and has a proper status
otherwise, and `Endpoint.Breaks` has all the ways.

Main result: `internal_errors`.
-/

namespace TableExplorer

/-! ## Files -/

namespace Api

/-! ## Outcomes -/

/-- An outcome goes wrong inside under a condition, and otherwise has one of some statuses. -/
def BreaksIff (P : Prop) (statuses : List Nat) (o : Outcome) : Prop :=
  (P ∧ o.status = 500) ∨ (¬P ∧ o.status ∈ statuses)

namespace BreaksIff

variable {P Q : Prop} {few many : List Nat} {o : Outcome}

theorem congr (h : BreaksIff P few o) (hiff : P ↔ Q) : BreaksIff Q few o := by
  rwa [propext hiff] at h

end BreaksIff

section Bodies

variable {f : Framework} {r : HttpRequest}

end Bodies

/-! ## The log -/

section Endpoints

variable {f : Framework} {m : Moment} {r : HttpRequest} {s : State}

end Endpoints

/-! ## Sending -/

/-- How deep the document of an answer is nested as it is written. -/
def HttpResponse.depth (response : HttpResponse) : Nat :=
  match response.body with
  | .document v => Json.deepest .outside 0 (Json.render v).toList
  | _ => 0

section Sending

variable {f : Framework} {m : Moment} {r : HttpRequest} {s : State}

end Sending

end Api

end TableExplorer
