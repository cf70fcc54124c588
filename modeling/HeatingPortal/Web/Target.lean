/-!
# Targets

What a request is sent to: a path, or an address in full, where a scheme and an
authority stand before the path. A query and a fragment may follow. Only the path
decides what the request is about.
-/

namespace HeatingPortal.Web

/-- A character of a scheme. -/
def isSchemeChar (c : Char) : Bool :=
  c.isAlphanum || c = '+' || c = '-' || c = '.' || c = '~'

/-- A character that ends a path: the query or the fragment begins there. -/
def endsPath (c : Char) : Bool :=
  c = '?' || c = '#'

/-- A character that ends an authority: the path, the query or the fragment begins there. -/
def endsAuthority (c : Char) : Bool :=
  c = '/' || endsPath c

/-- What follows the scheme and the authority of an address in full. -/
def afterAuthority? (target : List Char) : Option (List Char) :=
  match target.dropWhile isSchemeChar with
  | ':' :: '/' :: '/' :: rest => some (rest.dropWhile (!endsAuthority ·))
  | _ => none

/-- The characters before the query and the fragment. -/
def beforeQuery (cs : List Char) : List Char :=
  cs.takeWhile (!endsPath ·)

/-- The path of a target; an address in full that has none means the path `/`. -/
def pathOf (target : String) : List Char :=
  match afterAuthority? target.toList with
  | none => beforeQuery target.toList
  | some rest => if (beforeQuery rest).isEmpty then ['/'] else beforeQuery rest

/-- A target that begins with a slash has no scheme and no authority. -/
theorem afterAuthority?_slash (cs : List Char) : afterAuthority? ('/' :: cs) = none := by
  simp [afterAuthority?, isSchemeChar]

end HeatingPortal.Web
