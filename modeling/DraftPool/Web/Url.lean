import DraftPool.Web.Host

/-
Absolute URLs as the WHATWG URL standard reads and writes them.
-/

namespace DraftPool.Web

/-- The parts of an absolute URL, each already in its written form. -/
structure Url where
  scheme : String
  /-- User information, host and port, written; none when the URL has no host. -/
  authority : Option String
  path : String
  query : Option String
  fragment : Option String
  deriving DecidableEq, Repr

/-- The text of a URL. -/
def Url.text (u : Url) : String :=
  u.scheme ++ ":" ++ (match u.authority with | some a => "//" ++ a | none => "") ++ u.path ++
    (match u.query with | some q => "?" ++ q | none => "") ++
    (match u.fragment with | some f => "#" ++ f | none => "")

/-- The special schemes and their default ports. -/
def specialSchemes : List (String × Option Nat) :=
  [("http", some 80), ("https", some 443), ("ws", some 80), ("wss", some 443), ("ftp", some 21),
    ("file", none)]

/-- Whether a scheme is special. -/
def isSpecial (scheme : String) : Bool := specialSchemes.any (·.1 == scheme)

/-- The default port of a scheme. -/
def defaultPort (scheme : String) : Option Nat :=
  (specialSchemes.find? (·.1 == scheme)).bind (·.2)

/-- Whether a character is a control or a space, trimmed from both ends of the input. -/
def isControlOrSpace (c : Char) : Bool := c.toNat ≤ 0x20

/-- The input after trimming and removing tabs and line breaks. -/
def cleanInput (s : String) : List Char :=
  let cs := (s.toList.dropWhile isControlOrSpace).reverse.dropWhile isControlOrSpace
  cs.reverse.filter fun c => !(c = '\t' || c = '\n' || c = '\r')

/-- Whether a character may continue a scheme. -/
def isSchemeChar (c : Char) : Bool := c.isAlphanum || c = '+' || c = '-' || c = '.'

/-- The scheme, lowercased, and the text after its colon. -/
def splitScheme (cs : List Char) : Option (String × List Char) :=
  match cs with
  | c :: _ =>
    if c.isAlpha then
      let name := cs.takeWhile isSchemeChar
      match cs.drop name.length with
      | ':' :: rest => some (String.ofList (name.map Char.toLower), rest)
      | _ => none
    else none
  | [] => none

/-! Authorities. -/

/-- The host and the port text of `host:port`, splitting at the first colon outside brackets. -/
def splitPort (hostPort : List Char) : List Char × Option (List Char) :=
  let rec go (inBrackets : Bool) (acc : List Char) : List Char → List Char × Option (List Char)
    | [] => (acc.reverse, none)
    | c :: rest =>
      if c = '[' then go true (c :: acc) rest
      else if c = ']' then go false (c :: acc) rest
      else if c = ':' && !inBrackets then (acc.reverse, some rest)
      else go inBrackets (c :: acc) rest
  go false [] hostPort

/-- Reads a port, dropping the scheme's default. -/
def parsePort (scheme : String) (port : List Char) : Except UrlError (Option Nat) :=
  if port.isEmpty then .ok none
  else if !port.all Char.isDigit then .error .invalidPort
  else
    let n := (digitsIn 10 port).getD 0
    if 65535 < n then .error .invalidPort
    else if defaultPort scheme = some n then .ok none
    else .ok (some n)

/-- The written user information before the host, with its `@`. -/
def userinfoText (info : List Char) : String :=
  match (String.ofList info).splitOn ":" with
  | [] => ""
  | user :: rest =>
    let password := ":".intercalate rest
    let userText := encodeIn userinfoSet user.toList
    let passText := encodeIn userinfoSet password.toList
    if userText.isEmpty && passText.isEmpty then ""
    else userText ++ (if passText.isEmpty then "" else ":" ++ passText) ++ "@"

/-- Reads an authority: user information, host and port. -/
def parseAuthority (scheme : String) (special : Bool) (auth : List Char) : Except UrlError String := do
  let (info, hostPort) := match auth.reverse.findIdx? (· = '@') with
    | some i => (auth.take (auth.length - 1 - i), auth.drop (auth.length - i))
    | none => ([], auth)
  let (hostText, portText) := splitPort hostPort
  if special && hostText.isEmpty then throw .emptyHost
  let host ← if special then parseSpecialHost hostText else parseOpaqueHost hostText
  let port ← parsePort scheme (portText.getD [])
  let portPart := match port with | some p => ":" ++ toString p | none => ""
  return userinfoText info ++ host ++ portPart

/-! Paths. -/

/-- Whether a path segment is `.`, written or escaped. -/
def isSingleDot (seg : String) : Bool := seg = "." || seg.toLower = "%2e"

/-- Whether a path segment is `..`, written or escaped. -/
def isDoubleDot (seg : String) : Bool :=
  let s := seg.toLower
  s = ".." || s = ".%2e" || s = "%2e." || s = "%2e%2e"

/-- Whether a segment is a Windows drive letter: an ASCII letter and `:` or `|`. -/
def isDriveLetter (seg : List Char) : Bool :=
  match seg with
  | [letter, mark] => letter.isAlpha && (mark = ':' || mark = '|')
  | _ => false

/-- Whether a written segment starts like a drive letter: an ASCII letter, `:` or `|`, and then
nothing or a backslash. -/
def startsLikeDriveLetter (seg : String) : Bool :=
  match seg.toList with
  | letter :: mark :: rest =>
    letter.isAlpha && (mark = ':' || mark = '|') && (rest.isEmpty || rest.head? = some '\\')
  | _ => false

/-- The segments of a path being read: those finished, reversed, and whether the URL keeps its
host, which a file URL loses to a drive letter at the start of its path. -/
structure PathState where
  done : List String
  keepsHost : Bool

/-- Reads one segment of a path, `closed` when a slash follows it, and gives the state after it
and the segment that stays open at the end of the path. -/
def PathState.step (file : Bool) (st : PathState) (seg : List Char) (closed : Bool) :
    PathState × String :=
  let written := encodeIn pathSet seg
  if isDoubleDot written then
    let done := match st.done with
      | last :: earlier => if startsLikeDriveLetter last then st.done else earlier
      | [] => []
    ({ st with done }, "")
  else if isSingleDot written then (st, "")
  else if file && st.done.isEmpty && isDriveLetter seg then
    let drive := String.ofList [seg.headD 'a', ':']
    let st := { done := st.done, keepsHost := false }
    if closed then ({ st with done := drive :: st.done }, "") else (st, drive)
  else if closed then ({ st with done := written :: st.done }, "")
  else (st, written)

/-- Reads the segments of a path, the last of which no slash follows. A file path whose first
segment starts with a drive letter and goes on is split after the drive letter. -/
def PathState.run (file : Bool) (st : PathState) : List (List Char) → PathState × String
  | [] => (st, "")
  | [seg] =>
    match seg with
    | letter :: ':' :: more@(_ :: _) =>
      if file && st.done.isEmpty && letter.isAlpha then
        PathState.step file { st with done := [String.ofList [letter, ':']] } more false
      else PathState.step file st seg false
    | _ => PathState.step file st seg false
  | seg :: rest =>
    match seg with
    | letter :: ':' :: more@(_ :: _) =>
      if file && st.done.isEmpty && letter.isAlpha then
        let (st, _) := PathState.step file { st with done := [String.ofList [letter, ':']] } more true
        PathState.run file st rest
      else
        let (st, _) := PathState.step file st seg true
        PathState.run file st rest
    | _ =>
      let (st, _) := PathState.step file st seg true
      PathState.run file st rest

/-- Splits a path at its slashes, and at backslashes too in a special URL. -/
def pathSegments (special : Bool) (cs : List Char) : List (List Char) :=
  let cs := if special then cs.map fun c => if c = '\\' then '/' else c else cs
  cs.splitOn '/'

/-- Writes the path whose segments after the root are given, and says whether the URL keeps
its host. -/
def pathOf (file : Bool) (segments : List (List Char)) : String × Bool :=
  let (st, last) := PathState.run file ⟨[], true⟩ segments
  let all := st.done.reverse ++ [last]
  let all := if file then
      match all.dropWhile String.isEmpty with
      | [] => [""]
      | kept => kept
    else all
  ("/" ++ "/".intercalate all, st.keepsHost)

/-- Writes a hierarchical path from the text after the authority, which starts with its root
slash unless it is empty. -/
def pathText (special : Bool) (cs : List Char) : String :=
  match cs with
  | [] => if special then "/" else ""
  | _ :: rest => (pathOf false (pathSegments special rest)).1

/-- Splits off the query and fragment after a path. -/
def splitTail (cs : List Char) : List Char × Option (List Char) × Option (List Char) :=
  let beforeHash := cs.takeWhile (· ≠ '#')
  let fragment := match cs.dropWhile (· ≠ '#') with
    | '#' :: f => some f
    | _ => none
  let pathPart := beforeHash.takeWhile (· ≠ '?')
  let query := match beforeHash.dropWhile (· ≠ '?') with
    | '?' :: q => some q
    | _ => none
  (pathPart, query, fragment)

/-- Whether a character is a slash or a backslash. -/
def isSlash (c : Char) : Bool := c = '/' || c = '\\'

/-- The query and fragment of a special URL, written. -/
def specialTail (query fragment : Option (List Char)) : Option String × Option String :=
  (query.map (encodeIn specialQuerySet), fragment.map (encodeIn fragmentSet))

/-- Reads a file URL from the text after `file:`. -/
def parseFile (rest : List Char) : Except UrlError Url := do
  let pathOnly (text : List Char) : Url :=
    let (pathPart, query, fragment) := splitTail text
    let (q, f) := specialTail query fragment
    ⟨"file", some "", (pathOf true (pathSegments true pathPart)).1, q, f⟩
  match rest with
  | a :: b :: afterSlashes =>
    if !isSlash a then return pathOnly rest
    else if !isSlash b then return pathOnly (b :: afterSlashes)
    else
      let hostText := afterSlashes.takeWhile fun c => !(isSlash c || c = '?' || c = '#')
      let (host, pathPart, query, fragment) ←
        if isDriveLetter hostText then
          let (pathPart, query, fragment) := splitTail afterSlashes
          pure ("", pathSegments true pathPart, query, fragment)
        else
          let host ← if hostText.isEmpty then pure "" else parseSpecialHost hostText
          let (pathPart, query, fragment) := splitTail (afterSlashes.drop hostText.length)
          pure (if host = "localhost" then "" else host, pathSegments true (pathPart.drop 1),
            query, fragment)
      let (path, keepsHost) := pathOf true pathPart
      let (q, f) := specialTail query fragment
      return ⟨"file", some (if keepsHost then host else ""), path, q, f⟩
  | [a] => return pathOnly (if isSlash a then [] else [a])
  | [] => return pathOnly []

/-- Reads an absolute URL. -/
def Url.parse (s : String) : Except UrlError Url := do
  let cs := cleanInput s
  let some (scheme, rest) := splitScheme cs | throw .relativeWithoutBase
  let special := isSpecial scheme
  if scheme = "file" then parseFile rest
  else if special then
    let afterSlashes := rest.dropWhile isSlash
    let auth := afterSlashes.takeWhile fun c => !(isSlash c || c = '?' || c = '#')
    let authority ← parseAuthority scheme true auth
    let (pathPart, query, fragment) := splitTail (afterSlashes.drop auth.length)
    let (q, f) := specialTail query fragment
    return ⟨scheme, some authority, pathText true pathPart, q, f⟩
  else
    let queryOf (q : Option (List Char)) : Option String := q.map (encodeIn querySet)
    let fragmentOf (f : Option (List Char)) : Option String := f.map (encodeIn fragmentSet)
    match rest with
    | '/' :: '/' :: more =>
      let auth := more.takeWhile fun c => !(c = '/' || c = '?' || c = '#')
      let authority ← parseAuthority scheme false auth
      let (pathPart, query, fragment) := splitTail (more.drop auth.length)
      return ⟨scheme, some authority, pathText false pathPart, queryOf query, fragmentOf fragment⟩
    | '/' :: _ =>
      let (pathPart, query, fragment) := splitTail rest
      return ⟨scheme, none, pathText false pathPart, queryOf query, fragmentOf fragment⟩
    | _ =>
      let (pathPart, query, fragment) := splitTail rest
      return ⟨scheme, none, encodeIn [] pathPart, queryOf query, fragmentOf fragment⟩

/-- Appends `name=value` pairs to the query in the form format. -/
def Url.appendPairs (u : Url) (pairs : List (String × String)) : Url :=
  let written := "&".intercalate (pairs.map fun (n, v) => formPair n v)
  match u.query with
  | some q => { u with query := some (if q.isEmpty then written else q ++ "&" ++ written) }
  | none => { u with query := some written }

end DraftPool.Web
