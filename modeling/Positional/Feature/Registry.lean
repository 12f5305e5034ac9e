import Positional.Feature.Handler

/-!
# The registry of features

Features are kept under their names, in order of first registration.  Registering a name again
replaces the feature in its place.
-/

namespace Positional

structure OptionInfo where
  name : String
  required : Bool
  default : Option Json
  help : String

/-- Where a feature is reached over HTTP, and the fields of the requests it takes. -/
structure Endpoint where
  path : String
  methods : List String
  fields : List String

/-- A feature: a handler with a name, and how it is offered on the command line and over HTTP. -/
structure Feature where
  name : String
  description : String
  handler : Handler
  options : Option (List OptionInfo)
  endpoint : Option Endpoint

namespace Feature

def templateOption : OptionInfo :=
  ⟨"template", true, none, "Template with \x7bn\x7d placeholders"⟩

def version : Feature where
  name := "version"
  description := "Get the posfmt version"
  handler := Handler.version
  options := none
  endpoint := some ⟨"/version", ["GET"], []⟩

def format : Feature where
  name := "format"
  description := "Substitute positional arguments into a template"
  handler := Handler.format
  options := some
    [templateOption,
      ⟨"arguments", false, none, "Positional arguments, index 0 first"⟩,
      ⟨"typed", false, some (.bool false),
        "Read arguments as numbers, booleans, null or quoted strings"⟩]
  endpoint := some ⟨"/format", ["POST"], ["arguments", "template", "typed"]⟩

def parse : Feature where
  name := "parse"
  description := "Parse a template into literal and placeholder segments"
  handler := Handler.parse
  options := some [templateOption]
  endpoint := some ⟨"/parse", ["POST"], ["template"]⟩

def unlisted (name description : String) (handler : Handler) : Feature :=
  ⟨name, description, handler, none, none⟩

end Feature

structure Registry where
  features : List Feature

namespace Registry

/-- Put a feature in the place of the one of the same name, or at the end. -/
def insert (feature : Feature) : List Feature → List Feature
  | [] => [feature]
  | present :: rest =>
    if present.name = feature.name then feature :: rest else present :: insert feature rest

def register (registry : Registry) (feature : Feature) : Registry :=
  ⟨insert feature registry.features⟩

def find? (registry : Registry) (name : String) : Option Feature :=
  registry.features.find? fun feature => feature.name = name

def names (registry : Registry) : List String :=
  registry.features.map Feature.name

def shipped : Registry :=
  ⟨[Feature.version, Feature.format, Feature.parse]⟩

@[simp] theorem names_shipped : shipped.names = ["version", "format", "parse"] := rfl

theorem find?_register_self (registry : Registry) (feature : Feature) :
    (registry.register feature).find? feature.name = some feature := by
  simp only [find?, register]
  induction registry.features with
  | nil => simp [insert]
  | cons present rest ih =>
      by_cases h : present.name = feature.name
      · simp [insert, h]
      · simp [insert, h, ih]

theorem find?_register_of_ne (registry : Registry) (feature : Feature) {name : String}
    (hname : name ≠ feature.name) :
    (registry.register feature).find? name = registry.find? name := by
  simp only [find?, register]
  induction registry.features with
  | nil => simp [insert, Ne.symm hname]
  | cons present rest ih =>
      by_cases h : present.name = feature.name
      · simp [insert, h, Ne.symm hname]
      · simp [insert, h, List.find?_cons, ih]

end Registry

end Positional
