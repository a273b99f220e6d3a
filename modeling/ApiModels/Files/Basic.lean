import ApiModels.Files.Path
import ApiModels.Text.Utf8

/-!
# Files

`Files` is a state of all files and folders, together with the current folder. A path is followed
segment by segment, from the root if it is absolute and else from the current folder
(`Files.locate`); all but its last segment have to name folders, and neither a segment nor the
path may be too long.

`readText` reads a file and `writeText` writes one, into a folder that is there already;
`createFolders` makes a folder with all those it lies in.
-/

namespace ApiModels

/-- Why a file could not be read or written. -/
inductive FileFault where
  | notFound
  | notFolder
  | isFolder
  | exists
  | nameTooLong
  /-- The path has a character with the code zero. -/
  | zeroInName
  | notText
  deriving DecidableEq, Repr

/-- The words for a fault. -/
def FileFault.message : FileFault → String
  | .notFound => "No such file or directory (os error 2)"
  | .notFolder => "Not a directory (os error 20)"
  | .isFolder => "Is a directory (os error 21)"
  | .exists => "File exists (os error 17)"
  | .nameTooLong => "File name too long (os error 36)"
  | .zeroInName => "file name contained an unexpected NUL byte"
  | .notText => "stream did not contain valid UTF-8"

/-- What a file holds: a text, or bytes that are none. -/
inductive FileContent where
  | text (value : String)
  | bytes (value : List UInt8)
  deriving DecidableEq, Repr

/-- The content as a text in which what is none has been replaced. -/
def FileContent.lossyText : FileContent → String
  | .text s => s
  | .bytes bs => Text.decodeLossy bs

/-- The content with the given bytes. -/
def FileContent.ofBytes (bytes : List UInt8) : FileContent :=
  match String.fromUTF8? ⟨bytes.toArray⟩ with
  | some s => .text s
  | none => .bytes bytes

/-- A file or a folder. -/
inductive FileEntry where
  | folder
  | file (content : FileContent)
  deriving DecidableEq, Repr

/-- The names of the folders down to an entry, and its own name. -/
abbrev Place := List String

/-- Files and folders. The root, which has the empty place, is always there. -/
structure Files where
  /-- The place of the current folder. -/
  current : Place
  entries : List (Place × FileEntry)
  deriving DecidableEq, Repr

namespace Files

/-- No files but the root, which is the current folder. -/
def empty : Files := ⟨[], []⟩

/-- What is at a place. -/
def get? (files : Files) (place : Place) : Option FileEntry :=
  if place = [] then some .folder else files.entries.lookup place

/-- Puts an entry to a place. -/
def put (files : Files) (place : Place) (entry : FileEntry) : Files :=
  { files with entries := (place, entry) :: files.entries.filter (·.1 != place) }

theorem get?_put_self {files : Files} {place : Place} {entry : FileEntry} (h : place ≠ []) :
    (files.put place entry).get? place = some entry := by
  simp [get?, put, h]

theorem get?_put_of_ne {files : Files} {place other : Place} {entry : FileEntry}
    (h : other ≠ place) : (files.put place entry).get? other = files.get? other := by
  rw [get?, get?]
  split
  · rfl
  · rw [put, List.lookup_cons]
    have hne : (other == place) = false := by simpa using h
    simp only [hne]
    induction files.entries with
    | nil => rfl
    | cons head rest ih =>
      obtain ⟨place', entry'⟩ := head
      rw [List.filter_cons, List.lookup_cons]
      by_cases hp : place' = place
      · have hother : (other == place') = false := by rw [hp]; exact hne
        simpa [hp, hother, hne] using ih
      · simp only [bne_iff_ne, ne_eq, hp, not_false_eq_true, if_true, List.lookup_cons]
        split
        · rfl
        · exact ih

/-! ### Paths -/

/-- The place at the end of a path that starts at a place. Whatever has a segment after it has to
be a folder; what the last segment names may be missing. The folder above the root is the root. -/
def walk (files : Files) : Place → List String → Except FileFault Place
  | place, [] => .ok place
  | place, segment :: rest =>
    match files.get? place with
    | none => .error .notFound
    | some (.file _) => .error .notFolder
    | some .folder =>
      if Path.isHere segment then walk files place rest
      else if segment = ".." then walk files place.dropLast rest
      else if Path.segmentLimit < segment.utf8ByteSize then .error .nameTooLong
      else walk files (place ++ [segment]) rest

/-- Where a path starts: at the root or at the current folder. -/
def start (files : Files) (path : String) : Place :=
  if Path.isAbsolute path then [] else files.current

/-- What keeps a path from naming anything, whatever files there are. -/
def pathFault? (path : String) : Option FileFault :=
  if path.toList.contains '\x00' then some .zeroInName
  else if Path.limit ≤ path.utf8ByteSize then some .nameTooLong
  else if path = "" then some .notFound
  else none

/-- The place at the end of a path that may be followed along the given segments. -/
def locateAlong (files : Files) (path : String) (segments : List String) :
    Except FileFault Place :=
  match pathFault? path with
  | some fault => .error fault
  | none => files.walk (files.start path) segments

/-- The place that a path names. -/
def locate (files : Files) (path : String) : Except FileFault Place :=
  files.locateAlong path (Path.segments path)

/-- Whether a path names a file. -/
def isFile (files : Files) (path : String) : Bool :=
  match files.locate path with
  | .ok place =>
    match files.get? place with
    | some (.file _) => true
    | _ => false
  | .error _ => false

/-! ### Reading and writing -/

/-- The content of a file. -/
def readContent (files : Files) (path : String) : Except FileFault FileContent := do
  match files.get? (← files.locate path) with
  | none => throw .notFound
  | some .folder => throw .isFolder
  | some (.file content) => return content

/-- The text of a file. -/
def readText (files : Files) (path : String) : Except FileFault String := do
  match ← files.readContent path with
  | .text s => return s
  | .bytes _ => throw .notText

/-- The place to which a path lets one write. A separator at the end asks for a folder. -/
def locateTarget (files : Files) (path : String) : Except FileFault Place :=
  if Path.hasSlashAtEnd path then
    match files.locateAlong path (Path.segmentsAbove path) with
    | .ok _ => .error .isFolder
    | .error fault => .error fault
  else files.locate path

/-- Writes a text to a file, over what is there. -/
def writeText (files : Files) (path s : String) : Except FileFault Files := do
  let place ← files.locateTarget path
  match files.get? place with
  | some .folder => throw .isFolder
  | _ => return files.put place (.file (.text s))

/-! ### Folders -/

/-- Makes the folder at the end of segments, if it is missing, in a folder that is there. Gives its
place too. -/
def ensureFolder (files : Files) (start : Place) (segments : List String) :
    Except FileFault (Files × Place) := do
  let place ← files.walk start segments
  match files.get? place with
  | none => return (files.put place .folder, place)
  | some .folder => return (files, place)
  | some (.file _) => throw .exists

/-- Makes the folder at the end of segments, which are given from the last one to the first, and
before it those that are missing on the way. What is wrong is told about the longest way that does
not end at something missing. -/
def createAlong (start : Place) (files : Files) : List String → Except FileFault (Files × Place)
  | [] => .ok (files, start)
  | segment :: above =>
    match files.ensureFolder start (segment :: above).reverse with
    | .error .notFound => do
      let (files, place) ← createAlong start files above
      files.ensureFolder place [segment]
    | result => result

/-- Makes a folder and those that it lies in, as far as they are missing. -/
def createFolders (files : Files) (path : String) : Except FileFault Files :=
  if path = "" then .ok files
  else
    match pathFault? path with
    | some fault => .error fault
    | none => (createAlong (files.start path) files (Path.segments path).reverse).map (·.1)

/-- Puts an entry to the end of a path and makes the folders on the way; nothing changes if that is
not possible. -/
def insert (files : Files) (path : String) (entry : FileEntry) : Files :=
  match createAlong (files.start path) files (Path.segments path).dropLast.reverse with
  | .error _ => files
  | .ok (made, _) =>
    match made.locate path with
    | .error _ => files
    | .ok place => made.put place entry

/-- The files with the given contents below a folder, which is the current one. -/
def ofList (current : Place) (contents : List (String × FileContent)) : Files :=
  let files := match createAlong [] empty current.reverse with
    | .ok (files, _) => files
    | .error _ => empty
  contents.foldl (fun files (path, content) => files.insert path (.file content))
    { files with current := current }

end Files

end ApiModels
