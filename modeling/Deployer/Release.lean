/-!
# The release

The name under which the program introduces itself to the service.
-/

namespace Deployer

/-- A released program, and the revision of the sources that it was built from. -/
structure Release where
  name : String
  version : String
  revision : String
deriving DecidableEq, Repr

namespace Release

/-- The release that was built from a revision. -/
def current (revision : String) : Release := ⟨"deploy-client", "0.1.0", revision⟩

/-- How the program introduces itself. -/
def userAgent (r : Release) : String := r.name ++ "/" ++ r.version ++ " (" ++ r.revision ++ ")"

end Release

end Deployer
