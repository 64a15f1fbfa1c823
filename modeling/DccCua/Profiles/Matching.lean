import DccCua.Profiles.Profile
import Mathlib.Data.List.Infix

/-! # What a profile matches

The lookup of a target from a query, and of a profile from the URL of a page. Lower-casing outside ASCII is left open. -/

namespace DccCua

/-- `str::to_lowercase`. -/
structure Lowercase where
  apply : String → String
  ascii : ∀ text, (∀ c ∈ text.toList, c.toNat < 0x80) → apply text = Text.toAsciiLowercase text

/-- `str::split_whitespace`. -/
def splitWhitespace (value : String) : List String := (Text.split Text.isWhitespace value).filter (· ≠ "")

/-- `str::contains`. -/
def containsText (value pattern : String) : Bool := decide (pattern.toList <:+: value.toList)

section
variable (lowercase : Lowercase)

def normalizeText (value : String) : String := lowercase.apply (" ".intercalate (splitWhitespace value))

/-- The names of a target, those of every locale included. -/
def SemanticTarget.allNames (target : SemanticTarget) : List String := target.names ++ target.localizedNames.flatMap Prod.snd

/-- The criterion of `resolve_target`, for a query that is normalized. -/
def SemanticTarget.answersQuery (target : SemanticTarget) (query : String) : Bool :=
  eqIgnoreAsciiCase target.id query || containsText (normalizeText lowercase target.label) query ||
    (target.allNames.any fun name => normalizeText lowercase name = query) ||
    target.automationIds.any fun automationId => normalizeText lowercase automationId = query

def SemanticProfile.resolveTarget (profile : SemanticProfile) (surfaceId query : String) : Option SemanticTarget :=
  (profile.surface surfaceId).bind fun surface =>
    surface.targets.find? (·.answersQuery lowercase (normalizeText lowercase query))

end

/-! ### Windows -/

def isVersionChar (c : Char) : Bool := isAsciiAlphanumeric c || c = '.'

def containsVersionToken (value version : String) : Bool :=
  (Text.split (fun c => !isVersionChar c) value).any fun token => eqIgnoreAsciiCase token version

def ProfileSelector.hasTitles (selector : ProfileSelector) : Bool :=
  !selector.windowTitleContains.isEmpty || selector.localizedWindowTitleContains.any fun (_, aliases) => !aliases.isEmpty

/-- The plain aliases, and then those of every locale. -/
def ProfileSelector.titles (selector : ProfileSelector) : List String :=
  selector.windowTitleContains ++ selector.localizedWindowTitleContains.flatMap Prod.snd

section
variable (lowercase : Lowercase)

def ProfileSelector.matchesWindow (selector : ProfileSelector) (applicationName windowTitle : String) : Bool :=
  if selector.applicationNames.isEmpty && !selector.hasTitles then false
  else
    let appMatches := selector.applicationNames.isEmpty ||
      selector.applicationNames.any fun name => normalizeText lowercase name = normalizeText lowercase applicationName
    let normalizedTitle := normalizeText lowercase windowTitle
    let titleMatches := !selector.hasTitles ||
      selector.titles.any fun value => containsText normalizedTitle (normalizeText lowercase value)
    appMatches && titleMatches

def SemanticProfile.matchesWindow (profile : SemanticProfile) (applicationName windowTitle : String) : Bool :=
  (profile.selectors.any fun selector => selector.matchesWindow lowercase applicationName windowTitle) &&
    (profile.application.versions.isEmpty || profile.application.versions.any fun version =>
      containsVersionToken applicationName version || containsVersionToken windowTitle version)

end

/-! ### Hosts -/

/-- `trim_start_matches("www.")`. -/
def trimWww : List Char → List Char
  | 'w' :: 'w' :: 'w' :: '.' :: rest => trimWww rest
  | text => text

def normalizeHost (value : String) : String := Text.toAsciiLowercase (String.ofList (trimWww (Text.trim value).toList))

/-- What follows the first occurrence of the pattern: the second part of `str::split_once`. -/
def afterFirst (pattern : List Char) : List Char → Option (List Char)
  | [] => none
  | c :: rest => if pattern.isPrefixOf (c :: rest) then some ((c :: rest).drop pattern.length) else afterFirst pattern rest

/-- The first part of `str::split`. -/
def firstPart (separator : Char) (text : List Char) : List Char := text.takeWhile (· ≠ separator)

def urlHost (url : String) : String :=
  let authority := (afterFirst "://".toList url.toList).getD url.toList
  normalizeHost (String.ofList (firstPart ':' (firstPart '/' authority)))

def endsWith (value pattern : String) : Bool := pattern.toList.isSuffixOf value.toList

def SemanticProfile.matchesUrl (profile : SemanticProfile) (url : String) : Bool :=
  let host := urlHost url
  host ≠ "" && profile.selectors.any fun selector =>
    !selector.urlHosts.isEmpty && selector.urlHosts.any fun candidate =>
      host = normalizeHost candidate || endsWith host ("." ++ normalizeHost candidate)

end DccCua
