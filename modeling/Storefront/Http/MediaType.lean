import Storefront.Text.Ascii

/-! # Media types

A body is read as JSON if its media type is `application/json`, or an `application`
type whose name ends in `+json`.  Letters count without their case, and parameters may
follow.
-/
namespace Storefront.Http.MediaType

/-- Whether the character may stand in a name. -/
def isToken (c : Char) : Bool := c.isAlphanum || "!#$%&'*+-.^_\x60|~".toList.contains c

/-- Whether the character may stand between quotes. -/
def isQuotable (c : Char) : Bool := 0x20 ≤ c.toNat && c.toNat < 0x7F

/-- What has to come next in the parameters. -/
inductive Place where
  | name
  | plain
  | quoted
  | behindQuotes
  deriving DecidableEq

/-- Whether the characters are parameters with semicolons between them.  `fresh` says
that nothing has been read at this place yet; a quote that comes first between quotes
does not close them. -/
def areParameters (place : Place) (fresh : Bool) : List Char → Bool
  | [] => place == .plain || place == .behindQuotes || (place == .name && fresh)
  | c :: rest =>
    match place with
    | .name =>
      if c == ' ' && fresh then areParameters .name true rest
      else if c == '=' && !fresh then areParameters .plain true rest
      else isToken c && areParameters .name false rest
    | .plain =>
      if c == '"' && fresh then areParameters .quoted true rest
      else if c == ';' && !fresh then areParameters .name true rest
      else isToken c && areParameters .plain false rest
    | .quoted =>
      if c == '"' && !fresh then areParameters .behindQuotes true rest
      else isQuotable c && areParameters .quoted false rest
    | .behindQuotes =>
      if c == ';' then areParameters .name true rest
      else c == ' ' && areParameters .behindQuotes true rest

/-- The name before the last plus sign that does not begin it, and the name behind it. -/
def splitSuffix (subtype : List Char) : List Char × Option (List Char) :=
  let suffix := (subtype.reverse.takeWhile (· != '+')).reverse
  let before := subtype.take (subtype.length - suffix.length - 1)
  if suffix.length < subtype.length ∧ before ≠ [] then (before, some suffix) else (subtype, none)

/-- Whether a media type is one of JSON. -/
def isJson (text : String) : Bool :=
  let cs := (Text.asciiLower text).toList
  let kind := cs.takeWhile (· != '/')
  let rest := (cs.dropWhile (· != '/')).drop 1
  let subtype := rest.takeWhile (· != ';')
  let parameters := (rest.dropWhile (· != ';')).drop 1
  let (name, suffix) := splitSuffix subtype
  kind == "application".toList && !subtype.isEmpty && subtype.all isToken &&
    areParameters .name true parameters &&
    (name == "json".toList || suffix == some "json".toList)

end Storefront.Http.MediaType
