import OpeningTimes.Text.Pieces

/-!
Where a run of the command finds its input and leaves its output: a standard input and files by
path.  A run is written for any host; a folder in memory is one.
-/

namespace OpeningTimes.Command

inductive FileError where
  | notFound
  | notDirectory
  | isDirectory
  | notText
  | other (text : String)
deriving DecidableEq, Repr

def FileError.text : FileError → String
  | .notFound => "No such file or directory (os error 2)"
  | .notDirectory => "Not a directory (os error 20)"
  | .isDirectory => "Is a directory (os error 21)"
  | .notText => "stream did not contain valid UTF-8"
  | .other text => text

/-- Reading the standard input, and reading and writing files.  A write that fails leaves the file
as it was. -/
structure Host (m : Type → Type) where
  readInput : m ByteArray
  readFile : String → m (Except FileError ByteArray)
  writeFile : String → ByteArray → m (Except FileError Unit)

/-- A standard input and a directory without subdirectories. -/
structure Folder where
  input : ByteArray := ByteArray.empty
  files : List (String × ByteArray) := []

namespace Folder

def content? (folder : Folder) (name : String) : Option ByteArray :=
  folder.files.lookup name

/-- Puts a file in the place of the file with its name, or after all others. -/
def putFile (name : String) (content : ByteArray) :
    List (String × ByteArray) → List (String × ByteArray)
  | [] => [(name, content)]
  | (other, old) :: rest =>
      if other = name then (name, content) :: rest else (other, old) :: putFile name content rest

/-- The folder with a file written. -/
def put (folder : Folder) (name : String) (content : ByteArray) : Folder :=
  { folder with files := putFile name content folder.files }

theorem lookup_putFile_self (name : String) (content : ByteArray)
    (files : List (String × ByteArray)) :
    (putFile name content files).lookup name = some content := by
  induction files with
  | nil => simp [putFile]
  | cons file rest ih =>
      obtain ⟨first, old⟩ := file
      by_cases hname : first = name
      · simp [putFile, hname]
      · have hbeq : (name == first) = false := by simpa using Ne.symm hname
        simp [putFile, List.lookup_cons, hname, hbeq, ih]

theorem lookup_putFile_of_ne {name other : String} (hne : other ≠ name) (content : ByteArray)
    (files : List (String × ByteArray)) :
    (putFile name content files).lookup other = files.lookup other := by
  have hbeq : (other == name) = false := by simpa using hne
  induction files with
  | nil => simp [putFile, List.lookup_cons, hbeq]
  | cons file rest ih =>
      obtain ⟨first, old⟩ := file
      by_cases hname : first = name
      · simp [putFile, List.lookup_cons, hname, hbeq]
      · cases hother : other == first <;> simp [putFile, List.lookup_cons, hname, hother, ih]

inductive Target where
  | nothing
  | directory
  | file (name : String)
  /-- Something below the entry with a name, or the entry itself taken for a directory. -/
  | below (name : String)
deriving DecidableEq, Repr

/-- Where a path leads.  A point on the way stays where it is. -/
def target (path : String) : Target :=
  let pieces := Text.pieces '/' path.toList
  let names := pieces.filter (fun name => name != [] && name != ['.'])
  if path = "" then .nothing
  else
    match names with
    | [] => .directory
    | [name] =>
        if name = ['.', '.'] then .directory
        else if pieces.getLast? = some name then .file (String.ofList name)
        else .below (String.ofList name)
    | name :: _ :: _ => .below (String.ofList name)

def belowError (folder : Folder) (name : String) : FileError :=
  if (folder.content? name).isSome then .notDirectory else .notFound

/-- The content of the file at a path. -/
def read (folder : Folder) (path : String) : Except FileError ByteArray :=
  match target path with
  | .nothing => .error .notFound
  | .directory => .error .isDirectory
  | .below name => .error (folder.belowError name)
  | .file name =>
      match folder.content? name with
      | some content => .ok content
      | none => .error .notFound

def write (folder : Folder) (path : String) (content : ByteArray) : Except FileError Folder :=
  match target path with
  | .nothing => .error .notFound
  | .directory => .error .isDirectory
  | .below name => .error (folder.belowError name)
  | .file name => .ok (folder.put name content)

def host : Host (StateM Folder) where
  readInput := do
    let folder ← get
    pure folder.input
  readFile path := do
    let folder ← get
    pure (folder.read path)
  writeFile path content := do
    let folder ← get
    match folder.write path content with
    | .error error => pure (.error error)
    | .ok folder => do
        set folder
        pure (.ok ())

end Folder

end OpeningTimes.Command
