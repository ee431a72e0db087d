/-!
# Paths as text

A path is cut at its separators. Empty pieces name nothing, and a dot names something
only where a relative path begins. The text of a path is otherwise kept as it was
written, since it is shown and passed on.
-/
namespace CgroupBench.Path

def pieces (path : String) : List String :=
  (path.toList.splitOn '/').map .ofList

def isAbsolute (path : String) : Bool :=
  path.toList.head? == some '/'

/-- No separator is put after an empty path or one that ends in a separator. -/
def join (path name : String) : String :=
  match path.toList.getLast? with
  | none | some '/' => path ++ name
  | some _ => path ++ "/" ++ name

/-- Whether a piece with these pieces before it is a component of the path. -/
def isComponent (piece : String) (before : List String) : Bool :=
  piece != "" && (piece != "." || before.isEmpty)

/-- Drops the pieces at the end that are no components; the last piece comes first. -/
def dropEnd : List String → List String
  | [] => []
  | piece :: before => if isComponent piece before then piece :: before else dropEnd before

/-- The text of pieces whose last one comes first. -/
def ofReversed (absolute : Bool) (pieces : List String) : String :=
  if absolute && pieces.isEmpty then "/" else "/".intercalate pieces.reverse

def ancestorsOf (absolute : Bool) : List String → List String
  | [] => []
  | piece :: before =>
    if isComponent piece before then
      ofReversed absolute (dropEnd before) :: ancestorsOf absolute before
    else ancestorsOf absolute before

/-- The paths above a path, nearest first. Those of a relative path end in the empty path,
and a path without components has none. -/
def ancestors (path : String) : List String :=
  ancestorsOf (isAbsolute path) (pieces path).reverse

end CgroupBench.Path
