import ResumableUpload.Exchange.Basic
/-!
# Lifetimes

With a policy, and a store that keeps the ends of lives, a new upload is given
an end of its life.  Under a sliding policy a write gives it a new one.
-/

namespace ResumableUpload.Lifetime

/-- The policy, if it can be carried out. -/
def policy? (service : Service) : Option Policy :=
  if service.terms.supports .expiration then service.config.expiration
  else none

/-- Gives an upload the end of its life that follows from the present time. -/
def renew (service : Service) (id : String) : Attempt (Option Instant) := do
  match policy? service with
  | none => return none
  | some policy =>
      let now ← Attempt.now
      match policy.endFrom now with
      | .error cause => Attempt.fail (.overflow cause)
      | .ok expiry =>
          service.call (.setExpiry id expiry)
          return some expiry

/-- The end of the life of an upload, as it stands. -/
def current (service : Service) (id : String) : Attempt (Option Instant) :=
  match policy? service with
  | none => pure none
  | some _ => service.call (.expiry id)

/-- The end of the life of an upload after a write. -/
def afterWrite (service : Service) (id : String) : Attempt (Option Instant) :=
  match service.config.expiration with
  | some (.sliding _) => renew service id
  | _ => current service id

end ResumableUpload.Lifetime
