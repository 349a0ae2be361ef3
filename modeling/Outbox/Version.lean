/-!
# Version
-/
namespace Outbox

namespace Version

def library : String := "0.1.0"

/-- The newest version of the database schema. -/
def schema : Nat := 2

/-- The version in one line, with the revision that the library was built from. -/
def line (revision : String) : String :=
  "v" ++ library ++ " (git " ++ revision ++ ", schema v" ++ toString schema ++ ")"

end Version

end Outbox
