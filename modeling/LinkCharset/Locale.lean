import LinkCharset.Label

/-! # The charset of the local system

Found in the environment: a variable that names it, or else the codeset of the locale in force. -/
namespace LinkCharset

/-- The values of the four variables that matter, as far as they are text. -/
structure LocaleVariables where
  charset : Option String := none
  lcAll : Option String := none
  lcCtype : Option String := none
  lang : Option String := none
  deriving DecidableEq, Repr

/-- What the `C` locale uses. -/
def posixCodeset : String := "ANSI_X3.4-1968"

/-- The codeset of `language[_territory][.codeset][@modifier]`. -/
def codeset? (locale : String) : Option String :=
  if locale = "C" ∨ locale = "POSIX" then some posixCodeset
  else
    match locale.toList.dropWhile (· != '.') with
    | [] => none
    | _ :: rest =>
      match rest.takeWhile (· != '@') with
      | [] => none
      | codeset => some (String.ofList codeset)

namespace LocaleVariables

/-- A value that is not UTF-8 counts as unset. -/
def ofBytes (charset lcAll lcCtype lang : Option Bytes) : LocaleVariables :=
  ⟨charset.bind Utf8.decode?, lcAll.bind Utf8.decode?, lcCtype.bind Utf8.decode?,
    lang.bind Utf8.decode?⟩

/-- An empty value counts as unset. -/
def nonEmpty (value : Option String) : Option String := value.filter (· != "")

/-- The name of the locale in force. -/
def governing? (v : LocaleVariables) : Option String :=
  (nonEmpty v.lcAll).or ((nonEmpty v.lcCtype).or (nonEmpty v.lang))

def detect (v : LocaleVariables) : Logged (Option String) :=
  match nonEmpty v.charset with
  | some charset => (some charset, [.charsetVariable charset])
  | none =>
    match v.governing? with
    | none => (none, [])
    | some locale => (codeset? locale, [.localeVariable locale (codeset? locale)])

end LocaleVariables

end LinkCharset
