import DocMapper.Settings.Basic

namespace DocMapper

/-! # Connections

Checking settings before anything is sent to a server.
-/

/-- A connection that is ready to be used. -/
structure Connection where
  database : String
  policy : SuffixPolicy

namespace Connection

/-- Cuts a text at the first occurrence of a character, if there is one. -/
def cutFirst? (c : Char) (cs : List Char) : Option (List Char × List Char) :=
  let first := cs.takeWhile (· ≠ c)
  match cs.drop first.length with
  | [] => none
  | _ :: rest => some (first, rest)

/-- Cuts a text at the last occurrence of a character, if there is one. -/
def cutLast? (c : Char) (cs : List Char) : Option (List Char × List Char) :=
  (cutFirst? c cs.reverse).map fun (last, first) => (first.reverse, last.reverse)

/-- The bytes of a text in which a percent sign and two hexadecimal digits write one byte. Any
other percent sign stands for itself. -/
def unescaped : List Char → List UInt8
  | [] => []
  | '%' :: a :: b :: rest =>
    match Text.ofHexDigits? [a, b] with
    | some byte => UInt8.ofNat byte :: unescaped rest
    | none => String.utf8EncodeChar '%' ++ unescaped (a :: b :: rest)
  | c :: rest => String.utf8EncodeChar c ++ unescaped rest

/-- The text that escaped characters write, if their bytes are one. -/
def unescaped? (cs : List Char) : Option String :=
  String.fromUTF8? (unescaped cs).toByteArray

/-- Every percent sign has two hexadecimal digits after it. -/
def isEscaped : List Char → Bool
  | [] => true
  | '%' :: rest => (Text.ofHexDigits? (rest.take 2)).isSome && 2 ≤ rest.length && isEscaped rest
  | _ :: rest => isEscaped rest

/-- A user name or a password: marks that have a meaning in addresses are escaped. -/
def isCredential (cs : List Char) : Bool :=
  cs.all (· ∉ ":/?#[]@".toList) && isEscaped cs && (unescaped? cs).isSome

/-- A user name that is not empty, and after a colon a password, if there is one. -/
def isUser (cs : List Char) : Bool :=
  match cutFirst? ':' cs with
  | some (name, password) => !name.isEmpty && isCredential name && isCredential password
  | none => !cs.isEmpty && isCredential cs

/-- A number from 1 to 65535. -/
def isPort (cs : List Char) : Bool :=
  (Settings.natural? cs).any fun n => 0 < n && n < UInt16.size

/-- The path of a socket, or a host and after a colon a port, if there is one. A host in square
brackets may hold colons. -/
def isHost (cs : List Char) : Bool :=
  if ".sock".toList.isSuffixOf cs then true
  else
    match cs with
    | '[' :: inner =>
      match cutFirst? ']' inner with
      | some (name, []) => !name.isEmpty
      | some (name, ':' :: port) => !name.isEmpty && isPort port
      | _ => false
    | _ =>
      match cutFirst? ':' cs with
      | some (name, port) => !name.isEmpty && isPort port
      | none => !cs.isEmpty

/-- The name of a database, in which characters may be escaped. -/
def isDatabase (cs : List Char) : Bool :=
  (unescaped? cs).any fun name => name.toList.all (· ∉ "/\\ \"$".toList)

/-- Options between ampersands, each a key and a value. -/
def areOptions (cs : List Char) : Bool :=
  let (first, others) := Text.cut '&' cs
  cs.isEmpty || (first :: others).all (·.contains '=')

/-- An address of the database protocol: the scheme, perhaps a user, hosts separated by commas,
and perhaps a database after a slash and options after a question mark. -/
def isAddress (uri : String) : Bool :=
  let scheme := "mongodb://".toList
  let cs := uri.toList
  if scheme.isPrefixOf cs then
    let cs := cs.drop scheme.length
    let (place, options) := (cutFirst? '?' cs).getD (cs, [])
    let (user?, place) := match cutLast? '@' place with
      | some (user, place) => (some user, place)
      | none => (none, place)
    let (hosts, database) := (cutFirst? '/' place).getD (place, [])
    let (first, others) := Text.cut ',' hosts
    areOptions options && user?.all isUser && (first :: others).all isHost && isDatabase database
  else false

end Connection

namespace Settings

/-- Prepares a connection; the first fault of the settings is the error. -/
def connect (s : Settings) : Except Error Connection :=
  let fail (cause : BadSetting) : Except Error Connection := .error (.configuration cause)
  if s.uri.isEmpty then fail .emptyUri
  else if s.database.isEmpty then fail .emptyDatabase
  else if s.maxPoolSize = 0 then fail .emptyPool
  else if !Connection.isAddress s.uri then fail .invalidUri
  else .ok { database := s.database, policy := s.policy }

end Settings

end DocMapper
