import ApiModels.Text.Blank

/-!
# Paths

Paths as texts: their segments, the folder they are in (`parentPath`) and the ending of the file
name (`extension?`). A segment that is empty or a single dot names the folder that it stands in.
-/

namespace ApiModels.Path

/-- The segments of a path, with the empty ones. -/
def segments (path : String) : List String :=
  (Text.fields (· == '/') path.toList).map String.ofList

/-- The largest number of bytes that a segment may have. -/
def segmentLimit : Nat := 255

/-- The number of bytes that a path has to stay below. -/
def limit : Nat := 4096

/-- Whether a path starts at the root of all files. -/
def isAbsolute (path : String) : Bool := path.toList.head? == some '/'

/-- Whether a path ends in a separator. -/
def hasSlashAtEnd (path : String) : Bool := path.toList.getLast? == some '/'

/-- Whether a segment names the folder that it stands in. -/
def isHere (segment : String) : Bool := segment == "" || segment == "."

/-- The segments before the last one of a path, whatever separators stand at its end, and an empty
one after them. They lead to the folder that the last segment stands in. -/
def segmentsAbove (path : String) : List String :=
  ((segments path).reverse.dropWhile (· == "")).tail.reverse ++ [""]

/-- The segments that name something, after a leading dot if there is one. -/
def components (path : String) : List String :=
  match segments path with
  | [] => []
  | first :: rest => (if first == "" then [] else [first]) ++ rest.filter (!isHere ·)

/-- A path, last character first, without what stands after its last component. -/
def dropEnd : List Char → List Char
  | '/' :: rest => dropEnd rest
  | '.' :: '/' :: rest => dropEnd rest
  | cs => cs

/-- The folder that a path lies in: the path without its last component. Empty for a path of one
component. -/
def parentPath (path : String) : String :=
  String.ofList (dropEnd ((dropEnd path.toList.reverse).dropWhile (· != '/'))).reverse

/-- The name of the file that a path ends in. -/
def fileName? (path : String) : Option String :=
  match (components path).getLast? with
  | some name => if name == ".." || name == "." then none else some name
  | none => none

/-- The characters after the last dot of a file name, unless the name starts with that dot. -/
def extensionOf (name : List Char) : Option (List Char) :=
  let ending := (name.reverse.takeWhile (· != '.')).reverse
  if ending.length + 1 < name.length then some ending else none

/-- The ending of the file name of a path. -/
def extension? (path : String) : Option String :=
  (fileName? path).bind fun name => (extensionOf name.toList).map String.ofList

/-- A path without the segments that name the folder they stand in. -/
def normalized (path : String) : String :=
  (if isAbsolute path then "/" else "") ++
    String.intercalate "/" ((components path).filter (!isHere ·))

example : segmentsAbove "a/b//" = ["a", ""] ∧ segmentsAbove "/" = [""] := by decide +kernel
example : parentPath "./a//b/./c.json/" = "./a//b" := by decide +kernel
example : parentPath "./c.json" = "." := by decide +kernel
example : parentPath "c.json" = "" := by decide +kernel
example : extension? "x/.modelgen.toml" = some "toml" ∧ extension? ".toml" = none := by
  decide +kernel

end ApiModels.Path
