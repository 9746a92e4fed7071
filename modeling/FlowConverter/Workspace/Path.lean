/-! Paths as texts: names divided by slashes. `..` and `.` are names like others here, except in
`normalize`, which resolves them without looking at any file. -/
namespace FlowConverter.Path

/-- The parts between slashes; some may be empty. -/
def partsOf : List Char → List (List Char)
  | [] => [[]]
  | c :: rest =>
    if c == '/' then [] :: partsOf rest
    else match partsOf rest with
      | [] => [[c]]
      | p :: ps => (c :: p) :: ps

def parts (path : String) : List String := (partsOf path.toList).map String.ofList

/-- What follows the last slash. -/
def baseName (path : String) : String := (parts path).getLastD ""

def isAbsolute (path : String) : Bool := path.toList.head? == some '/'

/-- `path` as seen from `dir`; an absolute path stays as it is. -/
def join (dir path : String) : String :=
  if isAbsolute path then path
  else if dir.isEmpty || dir.toList.getLast? == some '/' then dir ++ path
  else dir ++ "/" ++ path

/-- Takes one more name into a location, innermost name first. -/
def enter (inner : List String) (name : String) : List String :=
  if name == "" || name == "." then inner
  else if name == ".." then inner.tail
  else name :: inner

/-- The names from the root to `path`, which is seen from the location `dir`. -/
def normalize (dir : List String) (path : String) : List String :=
  let start := if isAbsolute path then [] else dir.reverse
  ((parts path).foldl enter start).reverse

/-- The absolute path of a location. -/
def ofLocation (names : List String) : String := "/" ++ "/".intercalate names

end FlowConverter.Path
