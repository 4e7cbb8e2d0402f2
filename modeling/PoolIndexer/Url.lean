import PoolIndexer.Host
import PoolIndexer.Url.Path

/-!
Web addresses: reading one, and appending segments and queries to it.

An address is read liberally: blanks around it and line breaks in it are dropped, and characters
that it may not hold are encoded. One without a scheme is no address. Schemes of the web need a
host, except for files, and divide paths by backslashes too.
-/
namespace PoolIndexer

structure Url where
  scheme : String
  /-- User, host and port as written. -/
  authority : Option String := none
  path : UrlPath
  query : Option String := none
  fragment : Option String := none
  deriving DecidableEq, Repr, Inhabited

namespace Url

/-! ## Parts of an address -/

open UrlPath (isBreak withoutBreaks)

/-- A text without controls and blanks at its ends. -/
def trimmed (s : List Char) : List Char :=
  let isEnd := fun (c : Char) => decide (c.toNat ≤ 0x20)
  ((s.dropWhile isEnd).reverse.dropWhile isEnd).reverse

/-- The schemes of the web. -/
def isSpecial (scheme : String) : Bool :=
  ["http", "https", "ws", "wss", "ftp", "file"].contains scheme

def isFile (scheme : String) : Bool := scheme == "file"

/-- What divides the path of a scheme of the web, or not. -/
def isSlash (special : Bool) (c : Char) : Bool := c == '/' || (special && c == '\\')

/-- What follows a slash at the front. -/
def afterSlash? (special : Bool) (s : List Char) : Option (List Char) :=
  match s.dropWhile isBreak with
  | c :: rest => if isSlash special c then some rest else none
  | [] => none

/-- The scheme in lower case and what follows its colon. -/
def scheme? (s : List Char) : Option (String × List Char) :=
  match Text.cutAt ':' s with
  | (name, some rest) =>
    let name := withoutBreaks name
    if name.head?.any Char.isAlpha
        && name.all (fun c => c.isAlphanum || c == '+' || c == '-' || c == '.') then
      some (String.ofList (name.map Char.toLower), rest)
    else none
  | _ => none

/-! ## Authorities -/

/-- A host, and what follows it: a colon ends it, but not between brackets. -/
def spanHost (bracketed : Bool) : List Char → List Char × List Char
  | [] => ([], [])
  | c :: rest =>
    if c == ':' && !bracketed then ([], c :: rest)
    else
      let (host, rest) := spanHost (c == '[' || (bracketed && c != ']')) rest
      (c :: host, rest)

/-- What follows a port of up to 65535; no digits at all will do. In other schemes than those of the
web a backslash ends the port. -/
def afterPort? (s : List Char) : Option (List Char) :=
  let port := s.takeWhile Char.isDigit
  let rest := s.dropWhile Char.isDigit
  if Numeral.value port ≤ 65535 ∧ (rest = [] ∨ rest.head? = some '\\') then some rest else none

/-- What follows a host and its port, if both are sound. -/
def afterHost? (special : Bool) (s : List Char) : Option (List Char) :=
  let (host, port) := spanHost false s
  if host.isEmpty && (special || !port.isEmpty) then none
  else if special && !Host.isWebHost host then none
  else if !special && !Host.isPlainHost host then none
  else match port with
    | [] => some []
    | _ :: port => afterPort? port

/-- What of an authority belongs to the path, if the authority is sound; it is followed by something
or not. Where a user is named there has to be a host. -/
def afterAuthority? (special followed : Bool) (s : List Char) : Option (List Char) :=
  match Text.cutAtLast? '@' s with
  | none => afterHost? special s
  | some (user, host) =>
    let noHost := host.isEmpty || host.head? == some ':'
    if user.isEmpty && host.isEmpty && followed then none
    else if !user.isEmpty && user != [':'] && noHost then none
    else afterHost? special host

/-! ## Paths -/

/-- The segments of a path, of which one slash at the front leads to the first. -/
def segmentsOf (scheme : String) (path : List Char) : List String :=
  let special := isSpecial scheme
  UrlPath.follow (isFile scheme) []
    (Text.splitAt (isSlash special) ((afterSlash? special path).getD path))

/-- An address whose part after the scheme holds an authority and a path; more may follow it. -/
def withAuthority? (scheme : String) (more : Bool) (s : List Char) : Option Url :=
  let special := isSpecial scheme
  let (authority, path) := Text.spanUntil (isSlash special) s
  (afterAuthority? special (more || !path.isEmpty) authority).map fun rest =>
    let path := rest ++ path
    { scheme, authority := some (String.ofList authority)
      path := .segments (if path.isEmpty && !special then [] else segmentsOf scheme path) }

/-- The address of a file: a host is named after two slashes, unless there is a drive. -/
def ofFile? (scheme : String) (s : List Char) : Option Url :=
  let isSlash := isSlash true
  let url := fun (host : Option (List Char)) (segments : List String) =>
    some { scheme, authority := host.map String.ofList
           path := .segments (UrlPath.withoutLeadingSlashes segments) : Url }
  match (afterSlash? true s).bind (afterSlash? true) with
  | some rest =>
    let (host, path) := Text.spanUntil isSlash rest
    let host := withoutBreaks host
    if host.isEmpty || UrlPath.isDrive host then
      url (some []) (UrlPath.follow true [] (Text.splitAt isSlash rest))
    else if Host.isWebHost host then url (some host) (segmentsOf scheme path)
    else none
  | none => url none (segmentsOf scheme s)

/-- An address without query and fragment, from what follows the scheme. -/
def ofScheme? (scheme : String) (more : Bool) (s : List Char) : Option Url :=
  if isFile scheme then ofFile? scheme s
  else
    let s := withoutBreaks s
    if isSpecial scheme then withAuthority? scheme more (s.dropWhile (isSlash true))
    else match s with
      | '/' :: '/' :: rest => withAuthority? scheme more rest
      | '/' :: _ => some { scheme, path := .segments (segmentsOf scheme s) }
      | s => some { scheme, path := .whole (String.ofList (Percent.encode [] s)) }

/-! ## Whole addresses -/

/-- Reads an address. -/
def parse? (s : String) : Option Url := do
  let (scheme, rest) ← scheme? (trimmed s.toList)
  let (rest, fragment) := Text.cutAt '#' rest
  let (rest, query) := Text.cutAt '?' rest
  let url ← ofScheme? scheme (fragment.isSome || query.isSome) rest
  let queryReserved := " \"#<>".toList ++ if isSpecial scheme then ['\''] else []
  return { url with
    query := query.map fun q => String.ofList (Percent.encode queryReserved (withoutBreaks q))
    fragment := fragment.map fun f =>
      String.ofList (Percent.encode " \"<>`".toList (withoutBreaks f)) }

/-- What is asked of the host: the path and the query. -/
def target (url : Url) : String := url.path.text ++ ((url.query.map ("?" ++ ·)).getD "")

def text (url : Url) : String :=
  url.scheme ++ ":" ++ ((url.authority.map ("//" ++ ·)).getD "") ++ url.target
    ++ ((url.fragment.map ("#" ++ ·)).getD "")

/-- Appends segments to the path, in place of an empty last one; dots name no segment. An address
whose path is no list of segments admits none. -/
def extend? (url : Url) (items : List String) : Option Url :=
  match url.path with
  | .whole _ => none
  | .segments base =>
    let parts := (items.filter fun s => s ≠ "." ∧ s ≠ "..").map String.toList
    let append := UrlPath.append (isFile url.scheme) (isSpecial url.scheme)
    some { url with path := .segments (parts.foldl append (UrlPath.trimmed base)) }

/-- Appends named values to the query. -/
def addQuery (url : Url) (fields : List (String × String)) : Url :=
  let encoded := fields.map fun (name, value) =>
    String.ofList (Percent.form name.toList) ++ "=" ++ String.ofList (Percent.form value.toList)
  let present := match url.query with
    | some q => if q.isEmpty then [] else [q]
    | none => []
  { url with query := some (String.intercalate "&" (present ++ encoded)) }

end Url
end PoolIndexer
