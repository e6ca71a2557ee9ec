/-!
# Paths

Two absolute paths name the same parts when they differ only in repeated slashes, single dots and a
slash at the end.
-/

namespace DeviceCode.Host

/-- The path under which a running program finds its own image. -/
def ownImage : String := "/proc/self/exe"

/-- The named parts of a path. -/
def pathParts (path : String) : List String :=
  (path.splitOn "/").filter fun part => part != "" && part != "."

/-- Whether two absolute paths have the same parts. -/
def samePath (a b : String) : Bool :=
  a.startsWith "/" && b.startsWith "/" && pathParts a == pathParts b

end DeviceCode.Host
