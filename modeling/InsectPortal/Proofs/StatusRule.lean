import InsectPortal.Proofs.ClientReply
import InsectPortal.Proofs.TokenOnWire

/-!
# The rule of statuses

Which failure a response stands for. Its status alone decides where it is no success: 401 rejects the
token, 400 and 422 the input, and any other says that the call may be tried again. A sign-in has no
token that could be rejected, so there every such status but those of the service's own faults refuses
the password. With a successful status the body decides.
-/
namespace InsectPortal

namespace Response

variable {r : Response}

end Response

def Response.bare (status : Nat) : Response := ⟨status, none, .empty, true⟩

end InsectPortal
