import DraftPool.Web.Form

/-
Where a store lives and how it is opened.
-/

namespace DraftPool

/-- How a store is opened. -/
inductive OpenMode where
  /-- For reading only; the file must exist. -/
  | readOnly
  /-- For reading and writing; the file must exist. -/
  | readWrite
  /-- For reading and writing, making the file when it is missing. -/
  | readWriteCreate
  /-- In memory, empty, whatever the file. -/
  | memory
  deriving DecidableEq, Repr

/-- The open mode a URI's `mode` option names. -/
def OpenMode.named? : String → Option OpenMode
  | "ro" => some .readOnly
  | "rw" => some .readWrite
  | "rwc" => some .readWriteCreate
  | "memory" => some .memory
  | _ => none

/-- A store's file and how it is opened. -/
structure StoreLocation where
  file : String
  mode : OpenMode := .readWriteCreate
  deriving DecidableEq, Repr

/-- Whether a location holds its store in memory: by its mode, or when its file is empty or
`:memory:`. -/
def StoreLocation.inMemory (loc : StoreLocation) : Bool :=
  loc.mode == .memory || loc.file.isEmpty || loc.file == ":memory:"

/-- The file systems a store may name: those of the platform, and the one in memory. -/
def fileSystems : List String := ["unix", "unix-none", "unix-dotfile", "unix-excl", "memdb"]

/-- The bytes of one part of a URI: `%HH` escapes decoded, and everything from a `%00` on left
out. -/
def uriPartBytes : List Char → List Nat
  | [] => []
  | '%' :: a :: b :: rest =>
    match Web.hexDigitValue a, Web.hexDigitValue b with
    | some x, some y => if x * 16 + y = 0 then [] else (x * 16 + y) :: uriPartBytes rest
    | _, _ => '%'.toNat :: uriPartBytes (a :: b :: rest)
  | c :: rest => Text.utf8Bytes c ++ uriPartBytes rest

/-- The text of one part of a URI. -/
def uriPartText (part : List Char) : String := String.ofList (Text.utf8DecodeLossy (uriPartBytes part))

/-- The options of a URI's query, in order. -/
def uriOptions (query : List Char) : List (String × String) :=
  (query.splitOn '&').filterMap fun item =>
    let (name, value) := match item.span (· ≠ '=') with
      | (name, []) => (name, [])
      | (name, _ :: value) => (name, value)
    let name := uriPartText name
    if name.isEmpty then none else some (name, uriPartText value)

/-- Reads the options of a URI in order: the file system named last, and the open mode. -/
def readUriOptions (options : List (String × String)) : Except String (Option String × OpenMode) :=
  options.foldlM (fun (vfs, mode) (name, value) =>
    if name == "vfs" then .ok (some value, mode)
    else if name == "cache" then
      if value == "shared" || value == "private" then .ok (vfs, mode)
      else .error ("no such cache mode: " ++ value)
    else if name == "mode" then
      match OpenMode.named? value with
      | some named => .ok (vfs, named)
      | none => .error ("no such access mode: " ++ value)
    else .ok (vfs, mode)) (none, .readWriteCreate)

/-- The location a store path names, or the database's message when the path is a URI it
refuses. -/
def StoreLocation.parse (path : String) : Except String StoreLocation :=
  match path.toList with
  | 'f' :: 'i' :: 'l' :: 'e' :: ':' :: rest => do
    let afterAuthority ← match rest with
      | '/' :: '/' :: more =>
        let authority := more.takeWhile (· ≠ '/')
        if authority.isEmpty || authority == "localhost".toList then
          .ok (more.drop authority.length)
        else .error ("invalid uri authority: " ++ String.ofList authority)
      | _ => .ok rest
    let (filePart, query) := match (afterAuthority.takeWhile (· ≠ '#')).span (· ≠ '?') with
      | (filePart, []) => (filePart, [])
      | (filePart, _ :: query) => (filePart, query)
    let (vfs, mode) ← readUriOptions (uriOptions query)
    match vfs with
    | some name => if !fileSystems.contains name then throw ("no such vfs: " ++ name)
    | none => pure ()
    return ⟨uriPartText filePart, mode⟩
  | _ => .ok ⟨path, .readWriteCreate⟩

end DraftPool
