set_option autoImplicit false

namespace BrowserCheck.Web.ContentType

def isTokenChar (c : Char) : Bool := c.isAlphanum || "!#$%&'+-.^_`|~".toList.contains c

def skipBlanks (s : List Char) : List Char := s.dropWhile (· == ' ')

def afterQuoted? : List Char → Option (List Char)
  | [] => none
  | '"' :: rest => some (skipBlanks rest)
  | '\\' :: _ :: rest => afterQuoted? rest
  | _ :: rest => afterQuoted? rest

def afterValue? (s : List Char) : Option (List Char) :=
  match s with
  | '"' :: rest => afterQuoted? rest
  | _ => some (s.dropWhile isTokenChar)

def areParameters (s : List Char) : Bool :=
  match s with
  | [] => true
  | c :: rest =>
    if c ≠ ';' then false
    else
      let rest' := skipBlanks rest
      if rest'.isEmpty then true
      else
        match rest'.dropWhile isTokenChar with
        | '=' :: value =>
          if rest'.head? = some '=' then false
          else match afterValue? value with
            | some more => if more.length ≤ rest.length then areParameters more else false
            | none => false
        | _ => false
termination_by s.length

def splitSuffix (s : List Char) : List Char × Option (List Char) :=
  let suffix := (s.reverse.takeWhile (· != '+')).reverse
  if suffix.length + 1 < s.length then (s.take (s.length - suffix.length - 1), some suffix) else (s, none)

def isJson (contentType : String) : Bool :=
  let s := contentType.toList
  let type := s.takeWhile isTokenChar
  match s.drop type.length with
  | '/' :: rest =>
    let subtype := rest.takeWhile isTokenChar
    let (name, suffix) := splitSuffix (subtype.map Char.toLower)
    type.map Char.toLower == "application".toList && !subtype.isEmpty &&
      areParameters (rest.drop subtype.length) &&
      (name == "json".toList || suffix == some "json".toList)
  | _ => false

end BrowserCheck.Web.ContentType
