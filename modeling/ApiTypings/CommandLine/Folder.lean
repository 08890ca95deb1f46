import ApiTypings.Text.Split

/-! # Files -/

namespace ApiTypings.CommandLine

/-- Why a file cannot be read or written. -/
inductive FileError where
  | notFound
  | permissionDenied
  | notDirectory
  | isDirectory
  | nameTooLong
  | notText
  | other (reason : String)
  deriving DecidableEq, Repr

def FileError.message : FileError → String
  | .notFound => "No such file or directory (os error 2)"
  | .permissionDenied => "Permission denied (os error 13)"
  | .notDirectory => "Not a directory (os error 20)"
  | .isDirectory => "Is a directory (os error 21)"
  | .nameTooLong => "File name too long (os error 36)"
  | .notText => "stream did not contain valid UTF-8"
  | .other reason => reason

/-- The two things that a run does with files. -/
structure Disk (m : Type → Type) where
  read : String → m (Except FileError String)
  write : String → String → m (Except FileError Unit)

/-- The files below one directory, by their names relative to it. -/
structure Folder where
  files : List (String × String) := []
  deriving DecidableEq, Repr

namespace Folder

/-- The parts of a path between slashes. -/
def parts (path : String) : List (List Char) :=
  Text.words (· = '/') path.toList

/-- Whether a path has a slash at its end, as only those of directories may. -/
def endsInSlash (path : String) : Bool :=
  path.toList.getLast? = some '/'

/-- Whether a part of a path stays in a directory or leaves it, and names nothing in it. -/
def isDots (part : List Char) : Bool :=
  part = ['.'] || part = ['.', '.']

/-- Whether a name has more bytes than the names in a directory can have. -/
def isTooLong (name : List Char) : Bool :=
  255 < (String.ofList name).utf8ByteSize

/-- The text of the file that some names lead to. -/
def text? (folder : Folder) (names : List (List Char)) : Option String :=
  (folder.files.find? (parts ·.1 = names)).map Prod.snd

/-- Whether some names lead to a directory: it is the folder itself, or files are below it. -/
def isDirectory (folder : Folder) (names : List (List Char)) : Bool :=
  names.isEmpty ||
    folder.files.any fun (name, _) => names.isPrefixOf (parts name) && parts name ≠ names

/-! ## Paths -/

/-- Where a path leads. -/
inductive Place where
  /-- To a file or directory of the folder, along names. -/
  | inside (names : List (List Char))
  /-- To a directory above the folder. -/
  | above
  deriving DecidableEq, Repr

/-- Where a path starts. -/
def start (path : String) : Place :=
  if path.toList.head? = some '/' then .above else .inside []

/-- Goes one part further. Only a directory can be left or entered, and nothing above the folder
can be entered. -/
def step (folder : Folder) : Place → List Char → Except FileError Place
  | .above, part =>
      if isDots part then return .above
      else if isTooLong part then throw .nameTooLong
      else throw .notFound
  | .inside names, part =>
      if !folder.isDirectory names then throw .notDirectory
      else if part = ['.'] then return .inside names
      else if part = ['.', '.'] then
        return if names.isEmpty then .above else .inside names.dropLast
      else if isTooLong part then throw .nameTooLong
      else if (folder.text? (names ++ [part])).isSome || folder.isDirectory (names ++ [part]) then
        return .inside (names ++ [part])
      else throw .notFound

/-- Goes along the first parts of a path. A path has less than 4096 bytes. -/
def walk (folder : Folder) (path : String) (parts : List (List Char)) : Except FileError Place :=
  if path.isEmpty then throw .notFound
  else if 4096 ≤ path.utf8ByteSize then throw .nameTooLong
  else parts.foldlM folder.step (start path)

def read (folder : Folder) (path : String) : Except FileError String := do
  match ← folder.walk path (parts path) with
  | .above => throw .isDirectory
  | .inside names =>
      match folder.text? names with
      | some text => if endsInSlash path then throw .notDirectory else return text
      | none => throw .isDirectory

/-- Replaces the text of a file, or adds the file behind the others. -/
def put (folder : Folder) (names : List (List Char)) (text : String) : Folder :=
  if folder.files.any (parts ·.1 = names) then
    { files := folder.files.map fun (name, old) =>
        if parts name = names then (name, text) else (name, old) }
  else
    { files := folder.files ++ [("/".intercalate (names.map String.ofList), text)] }

/-- Writes the file of a name in a directory. A slash behind the name asks for a directory, which
cannot be written, and above the folder nothing may be. -/
def writeAt (folder : Folder) (place : Place) (name : List Char) (slash : Bool) (text : String) :
    Except FileError Folder :=
  match place with
  | .above =>
      if slash then throw .isDirectory
      else if isTooLong name then throw .nameTooLong
      else throw .permissionDenied
  | .inside names =>
      if !folder.isDirectory names then throw .notDirectory
      else if slash then throw .isDirectory
      else if isTooLong name then throw .nameTooLong
      else if folder.isDirectory (names ++ [name]) then throw .isDirectory
      else return folder.put (names ++ [name]) text

/-- Writes a file. The directory it is in must be there. -/
def write (folder : Folder) (path text : String) : Except FileError Folder := do
  let place ← folder.walk path (parts path).dropLast
  match (parts path).getLast? with
  | none => throw .isDirectory
  | some last =>
      if isDots last then
        let _ ← folder.step place last
        throw .isDirectory
      else
        folder.writeAt place last (endsInSlash path) text

/-- A folder as a disk. -/
def disk : Disk (StateM Folder) where
  read path := do return (← get).read path
  write path text := do
    match (← get).write path text with
    | .ok folder => set folder; return .ok ()
    | .error e => return .error e

end Folder

end ApiTypings.CommandLine
