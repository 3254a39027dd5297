import ImageBuild.Text.Cut
import ImageBuild.Text.CharClass

/-!
# Image references

An image reference is `name[:tag][@digest]`. The name is a path, whose first
part may be the address of a registry. A name without an address belongs to the
default registry.
-/
namespace ImageBuild

/-- Why a text is not an image reference. -/
inductive ReferenceError where
  | empty
  | malformed
  | nameTooLong
  | unknownAlgorithm
  | checksumLength
  deriving DecidableEq, Repr

def ReferenceError.message : ReferenceError → String
  | .empty => "repository name must have at least one component"
  | .malformed => "invalid reference format"
  | .nameTooLong => "repository name must not be more than 255 characters"
  | .unknownAlgorithm => "unsupported digest algorithm"
  | .checksumLength => "invalid checksum digest length"

structure ImageReference where
  registry : String
  repository : String
  tag : Option String
  digest : Option String
  deriving DecidableEq, Repr

namespace ImageReference

def isLowerAlphanum (c : Char) : Bool := c.isLower || c.isDigit

/-- A part of a path has runs of letters and digits with a dot, one or two low
lines, or hyphens between them. -/
def isSeparatorRun (cs : List Char) : Bool :=
  cs == ['.'] || cs == ['_'] || cs == ['_', '_'] || cs.all (· == '-')

def isComponent (cs : List Char) : Bool :=
  cs.head?.any isLowerAlphanum && cs.getLast?.any isLowerAlphanum &&
    (cs.splitBy fun a b => isLowerAlphanum a == isLowerAlphanum b).all fun run =>
      run.all isLowerAlphanum || isSeparatorRun run

/-- A label of a host name neither starts nor ends with a hyphen. -/
def isLabel (cs : List Char) : Bool :=
  cs.all (fun c => c.isAlphanum || c == '-') && cs.head?.any Char.isAlphanum &&
    cs.getLast?.any Char.isAlphanum

/-- A host name, and a port after a colon if there is one. -/
def isAddress (cs : List Char) : Bool :=
  let (host, port) := Text.cutFirst ':' cs
  (Text.cut (· == '.') host).all isLabel &&
    match port with
    | none => true
    | some digits => !digits.isEmpty && digits.all Char.isDigit

/-- A path, or an address and a path. -/
def isName (cs : List Char) : Bool :=
  match Text.cut (· == '/') cs with
  | [] => false
  | first :: rest =>
    rest.all isComponent && (isComponent first || (isAddress first && !rest.isEmpty))

def isTag (cs : List Char) : Bool :=
  match cs with
  | [] => false
  | c :: rest =>
    Text.isWordChar c && rest.length ≤ 127 &&
      rest.all fun c => Text.isWordChar c || c == '.' || c == '-'

def isHexDigit (c : Char) : Bool :=
  c.isDigit || ('a' ≤ c && c ≤ 'f') || ('A' ≤ c && c ≤ 'F')

/-- The name of an algorithm has parts that start with a letter. -/
def isAlgorithm (cs : List Char) : Bool :=
  (Text.cut (fun c => c == '-' || c == '_' || c == '+' || c == '.') cs).all fun part =>
    part.head?.any Char.isAlpha && part.all Char.isAlphanum

def isDigest (cs : List Char) : Bool :=
  match Text.cutFirst ':' cs with
  | (algorithm, some checksum) =>
    isAlgorithm algorithm && checksum.all isHexDigit && 32 ≤ checksum.length
  | _ => false

/-- The text up to its last colon and the text after it, if no slash follows. -/
def splitTag (cs : List Char) : List Char × Option (List Char) :=
  let tail := cs.reverse.takeWhile fun c => c != ':' && c != '/'
  match cs.reverse.dropWhile fun c => c != ':' && c != '/' with
  | ':' :: rest => (rest.reverse, some tail.reverse)
  | _ => (cs, none)

/-- The registry of a name without an address. -/
def defaultRegistry : String := "docker.io"

/-- The registry and the repository of a name. The first part of a name is an
address if it has a dot or a colon or is the local host. -/
def splitName (cs : List Char) : String × String :=
  let (registry, repository) :=
    match Text.cutFirst '/' cs with
    | (first, some rest) =>
      if first.contains '.' || first.contains ':' || first == "localhost".toList then
        (String.ofList first, rest)
      else (defaultRegistry, cs)
    | _ => (defaultRegistry, cs)
  let registry := if registry = "index.docker.io" then defaultRegistry else registry
  let repository :=
    if registry = defaultRegistry && !repository.contains '/' then "library/".toList ++ repository
    else repository
  (registry, String.ofList repository)

/-- The algorithms in use, with the lengths of their checksums in hexadecimal
digits. -/
def algorithms : List (String × Nat) := [("sha256", 64), ("sha384", 96), ("sha512", 128)]

/-- The algorithm is the first six characters; one more is passed over, and the
rest counts as the checksum. -/
def checkDigest (digest : Option (List Char)) : Except ReferenceError Unit :=
  match digest with
  | none => .ok ()
  | some cs =>
    match algorithms.lookup (String.ofList (cs.take 6)) with
    | none => .error .unknownAlgorithm
    | some length => if (cs.drop 7).length = length then .ok () else .error .checksumLength

/-- The reference that a text spells. -/
def parse (s : String) : Except ReferenceError ImageReference := do
  let cs := s.toList
  if cs.isEmpty then throw .empty
  let (body, digest) := Text.cutFirst '@' cs
  let (name, tag) := splitTag body
  if !(isName name && tag.all isTag && digest.all isDigest) then throw .malformed
  let (registry, repository) := splitName name
  if repository.utf8ByteSize > 255 then throw .nameTooLong
  checkDigest digest
  return ⟨registry, repository, tag.map String.ofList, digest.map String.ofList⟩

/-- The host that serves the registry. -/
def host (r : ImageReference) : String :=
  if r.registry = defaultRegistry then "index.docker.io" else r.registry

end ImageReference

end ImageBuild
