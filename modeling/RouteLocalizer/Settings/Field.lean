/-
  The KEYS of the settings, and how values under them become settings.

  The keys stand in six sections.  Values may come in any format that can tell tables, lists,
  switches and texts apart (`Format`); what a value may be under which key is said here once, for
  every format.  A section is a table, whose unknown keys mean nothing, or a list, whose items are
  the values of the section's keys in their order.  Keys that are left out keep what the settings
  have before.

  The first value that does not fit is a `Misfit`, which knows the key it stands under.
-/
import RouteLocalizer.Settings.Basic

namespace RouteLocalizer.Settings

/-- Why a value does not fit. -/
inductive Misfit where
  /-- It is of another kind than expected. -/
  | kind (shown expected : Text)
  /-- It is of another kind than expected, under a key and from a source. -/
  | setting (shown expected : Text) (key : Option Text) (source : Option Text)
  /-- It is a list that is too long. -/
  | tooLong (length : Nat)
deriving DecidableEq, Repr

namespace Misfit

/-- What is said of a value of another kind than expected. -/
def kindMessage (shown expected : Text) : Text :=
  "invalid type: " ++ shown ++ ", expected " ++ expected

/-- Which key a message names, if it names one. -/
def keyMessage : Option Text → Text
  | none => []
  | some key => " for key \x60" ++ key ++ "\x60"

/-- Which source a message names, if it names one. -/
def sourceMessage : Option Text → Text
  | none => []
  | some source => " in " ++ source

/-- What a misfit says. -/
def message : Misfit → Text
  | .kind shown expected => kindMessage shown expected
  | .setting shown expected key source =>
    kindMessage shown expected ++ keyMessage key ++ sourceMessage source
  | .tooLong length =>
    "invalid length " ++ Text.ofNat length ++ ", expected fewer elements in array"

/-- A key with another one in front.  A dot stands between them unless the key goes on with the
    number of an item. -/
def keyBehind (name : Text) : Option Text → Text
  | none => name
  | some key => if key.head? = some '[' then name ++ key else name ++ '.' :: key

/-- The misfit of a value in a table, seen from the table. -/
def under (name : Text) : Misfit → Misfit
  | .setting shown expected key source =>
    .setting shown expected (some (keyBehind name key)) source
  | m => m

/-- The misfit of an item of a list, seen from the list. -/
def underItem (index : Nat) : Misfit → Misfit
  | .setting shown expected key source =>
    .setting shown expected (some ('[' :: Text.ofNat index ++ ']' :: key.getD [])) source
  | m => m

end Misfit

/-- How the values of a format are told apart. -/
structure Format (V : Type) where
  /-- The entries of a table. -/
  entries? : V → Option (List (Text × V))
  /-- The items of a list. -/
  items? : V → Option (List V)
  /-- The value of a switch. -/
  boolean : V → Except Misfit Bool
  /-- The value of a text. -/
  text : V → Except Misfit Text
  /-- The value of a text that may be left out. -/
  optionalText : V → Except Misfit (Option Text)
  /-- What a message calls a value. -/
  shown : V → Text
  /-- Whether a list may be longer than the section that it stands for. -/
  allowsSurplus : Bool

/-- What the value under a key is, and where it goes. -/
inductive Field where
  | boolean (put : Bool → Settings → Settings)
  | text (put : Text → Settings → Settings)
  | optionalText (put : Option Text → Settings → Settings)

/-- A section: its name in messages, and its keys. -/
structure Section where
  title : Text
  fields : List (Text × Field)

/-! ## The sections -/

/-- A switch of a pass. -/
def optionField (put : Bool → Options → Options) : Field :=
  .boolean fun b s => { s with options := put b s.options }

/-- A name or a tag of the wiring. -/
def wiringField (put : Text → Wiring → Wiring) : Field :=
  .text fun t s => { s with router := put t s.router }

def optionsSection : Section where
  title := "GeneratorOptions"
  fields := [
    ("render_template", optionField fun b o => { o with renderTemplate := b }),
    ("rewrite_router_link", optionField fun b o => { o with localizeLinks := b }),
    ("add_language_switcher", optionField fun b o => { o with addLanguageSwitcher := b }),
    ("inject_i18n", optionField fun b o => { o with injectI18n := b }),
    ("interactive", optionField fun b o => { o with interactive := b })]

def dependencySection : Section where
  title := "DependencyConfig"
  fields := [
    ("name", .text fun t s => { s with dependency := { s.dependency with name := t } }),
    ("version", .text fun t s => { s with dependency := { s.dependency with version := t } })]

def routerSection : Section where
  title := "RouterWiring"
  fields := [
    ("host", wiringField fun t w => { w with host := t }),
    ("from_symbol", wiringField fun t w => { w with fromSymbol := t }),
    ("to_symbol", wiringField fun t w => { w with toSymbol := t }),
    ("package", wiringField fun t w => { w with package := t }),
    ("i18n_symbol", wiringField fun t w => { w with i18nSymbol := t }),
    ("link_tag", wiringField fun t w => { w with linkTag := t }),
    ("localized_link_tag", wiringField fun t w => { w with localizedLinkTag := t }),
    ("switcher_tag", wiringField fun t w => { w with switcherTag := t })]

def languagesSection : Section where
  title := "I18nConfig"
  fields := [
    ("default_language", .text fun t s => { s with i18n := { s.i18n with defaultLanguage := t } })]

def templatesSection : Section where
  title := "TemplateConfig"
  fields := [
    ("dir", .optionalText fun t s => { s with templates := { s.templates with dir := t } })]

def loggingSection : Section where
  title := "LoggingConfig"
  fields := [
    ("level", .text fun t s => { s with logging := { s.logging with level := t } }),
    ("format", .text fun t s => { s with logging := { s.logging with format := t } })]

/-- The sections by their keys, in their order. -/
def sections : List (Text × Section) :=
  [("options", optionsSection), ("dependency", dependencySection), ("router", routerSection),
    ("i18n", languagesSection), ("templates", templatesSection), ("logging", loggingSection)]

/-! ## Reading values -/

namespace Format

variable {V : Type} (f : Format V)

/-- How a value changes the settings. -/
abbrev Change (V : Type) := V → Settings → Except Misfit Settings

/-- Reads the value under a key. -/
def readField : Field → Change V
  | .boolean put, v, s => (f.boolean v).map fun b => put b s
  | .text put, v, s => (f.text v).map fun t => put t s
  | .optionalText put, v, s => (f.optionalText v).map fun t => put t s

/-- Reads the entries of a table. -/
def fromEntries (parts : List (Text × Change V)) : List (Text × V) → Settings →
    Except Misfit Settings
  | [], s => .ok s
  | (name, v) :: rest, s =>
    match parts.find? fun p => p.1 = name with
    | none => fromEntries parts rest s
    | some (_, change) =>
      match change v s with
      | .error m => .error (m.under name)
      | .ok s => fromEntries parts rest s

/-- Reads the items of a list from a number on. -/
def fromItems (index : Nat) : List (Text × Change V) → List V → Settings → Except Misfit Settings
  | (_, change) :: parts, v :: rest, s =>
    match change v s with
    | .error m => .error (m.underItem index)
    | .ok s => fromItems (index + 1) parts rest s
  | _, _, s => .ok s

/-- Reads a table or a list whose parts are known. -/
def parts (title : Text) (ps : List (Text × Change V)) : Change V := fun v s =>
  match f.entries? v with
  | some entries => fromEntries ps entries s
  | none =>
    match f.items? v with
    | none => .error (.kind (f.shown v) ("struct " ++ title))
    | some items =>
      match fromItems 0 ps items s with
      | .error m => .error m
      | .ok s =>
        if ps.length < items.length ∧ !f.allowsSurplus then .error (.tooLong items.length)
        else .ok s

/-- Reads a section. -/
def readSection (s : Section) : Change V :=
  f.parts s.title (s.fields.map fun (name, field) => (name, f.readField field))

/-- Reads settings; what the value does not say keeps its default. -/
def settings (v : V) : Except Misfit Settings :=
  f.parts "Config" (sections.map fun (name, s) => (name, f.readSection s)) v {}

end Format

end RouteLocalizer.Settings
