import Mathlib.Tactic.Common

/-! # Exceptions of the control plane -/

namespace TenantPlatform

/-- `kubernetes.client.exceptions.ApiException`: the HTTP status and what `str` shows. -/
structure ApiException where
  status : ℕ
  text : String
deriving DecidableEq, Repr

/-- The exceptions the control plane raises or tells apart. `integrity` and `database`
are SQLAlchemy errors, `http` is FastAPI's HTTPException, and `other` is everything a
library may raise beside them. -/
inductive PyException where
  | api (e : ApiException)
  | valueError (text : String)
  | buildJobNotReady (text : String)
  | integrity (text : String)
  | database (text : String)
  | attribute (text : String)
  | http (status : ℕ) (detail : String)
  | other (text : String)
deriving DecidableEq, Repr

namespace PyException

/-- `str(e)`. -/
def str : PyException → String
  | .api e => e.text
  | .valueError text | .buildJobNotReady text | .integrity text | .database text
  | .attribute text | .http _ text | .other text => text

/-- An API answer that the object already exists. -/
def isConflict : PyException → Bool
  | .api e => e.status = 409
  | _ => false

/-- An API answer that the object does not exist. -/
def isNotFound : PyException → Bool
  | .api e => e.status = 404
  | _ => false

def isApi : PyException → Bool
  | .api _ => true
  | _ => false

end PyException

def conflict : PyException := .api ⟨409, "(409)\nReason: Conflict\n"⟩

def notFound : PyException := .api ⟨404, "(404)\nReason: Not Found\n"⟩

end TenantPlatform
