/-!
# Options and positional arguments

The words of a command line are options or positional arguments.  Options may stand anywhere; a
double dash ends them.  An option's value is attached to it or is the next word.  Short options may
be bundled in one word.  A command may keep words that look like options but are not declared as
positional arguments; otherwise they are usage errors.
-/

namespace Positional.CommandLine

variable {κ : Type}

structure Declared (κ : Type) where
  key : κ
  long : String
  short : Option Char
  takesValue : Bool

/-- The options of a command, and whether it keeps words that only look like options. -/
structure Grammar (κ : Type) where
  options : List (Declared κ)
  keepsUnknown : Bool

/-- One use of an option, with its value if it takes one. -/
structure Use (κ : Type) where
  key : κ
  value : Option String
deriving DecidableEq

structure UsageError where
deriving DecidableEq

/-- What one word says: uses of options, a positional argument, and an option that takes the next
word as its value. -/
structure Word (κ : Type) where
  uses : List (Use κ)
  positional : Option String
  awaiting : Option κ
deriving DecidableEq

/-- The uses of options and the positional arguments, each in order. -/
structure Scanned (κ : Type) where
  uses : List (Use κ)
  positionals : List String
deriving DecidableEq

namespace Word

def ofPositional (text : String) : Word κ :=
  ⟨[], some text, none⟩

def ofUse (key : κ) (value : Option String) : Word κ :=
  ⟨[⟨key, value⟩], none, none⟩

def ofAwaiting (key : κ) : Word κ :=
  ⟨[], none, some key⟩

end Word

namespace Grammar

def long? (grammar : Grammar κ) (name : String) : Option (Declared κ) :=
  grammar.options.find? fun option => option.long = name

def short? (grammar : Grammar κ) (letter : Char) : Option (Declared κ) :=
  grammar.options.find? fun option => option.short = some letter

/-- A word's part before the first equals sign, and the part after it if there is one. -/
def splitValue (word : List Char) : List Char × Option (List Char) :=
  let name := word.takeWhile (· != '=')
  match word.dropWhile (· != '=') with
  | [] => (name, none)
  | _ :: value => (name, some value)

def readLong (option : Declared κ) (attached : Option String) : Except UsageError (Word κ) :=
  match option.takesValue, attached with
  | true, some value => .ok (.ofUse option.key (some value))
  | true, none => .ok (.ofAwaiting option.key)
  | false, some _ => .error {}
  | false, none => .ok (.ofUse option.key none)

/-- What the letters of a bundle say: uses of options, letters that are no option, and an option
that takes the next word. -/
structure Bundle (κ : Type) where
  uses : List (Use κ)
  unknown : List Char
  awaiting : Option κ

/-- Read the letters of a bundle.  An option that takes a value takes the rest of the bundle, or
the next word where the bundle ends. -/
def readBundle (grammar : Grammar κ) : List Char → Except UsageError (Bundle κ)
  | [] => .ok ⟨[], [], none⟩
  | letter :: rest =>
    match grammar.short? letter with
    | none =>
      if grammar.keepsUnknown then do
        let bundle ← readBundle grammar rest
        return { bundle with unknown := letter :: bundle.unknown }
      else .error {}
    | some option =>
      if option.takesValue then
        if rest.isEmpty then .ok ⟨[], [], some option.key⟩
        else .ok ⟨[⟨option.key, some (String.ofList rest)⟩], [], none⟩
      else do
        let bundle ← readBundle grammar rest
        return { bundle with uses := ⟨option.key, none⟩ :: bundle.uses }

/-- A bundle as a word; letters that are no option are kept together as a positional argument. -/
def Bundle.toWord (bundle : Bundle κ) : Word κ :=
  let positional :=
    if bundle.unknown.isEmpty then none else some (String.ofList ('-' :: bundle.unknown))
  ⟨bundle.uses, positional, bundle.awaiting⟩

def readOption (grammar : Grammar κ) (word : List Char) : Except UsageError (Word κ) :=
  let (name, value) := splitValue word
  match grammar.long? (String.ofList name) with
  | some option => readLong option (value.map String.ofList)
  | none =>
    match word with
    | '-' :: '-' :: _ =>
      if grammar.keepsUnknown then .ok (.ofPositional (String.ofList word)) else .error {}
    | _ => (grammar.readBundle (word.drop 1)).map Bundle.toWord

/-- Read a word.  A word looks like an option if it starts with a dash and does not end there. -/
def readWord (grammar : Grammar κ) (word : String) : Except UsageError (Word κ) :=
  match word.toList with
  | '-' :: letter :: rest => grammar.readOption ('-' :: letter :: rest)
  | _ => .ok (.ofPositional word)

def prepend (word : Word κ) (value : List (Use κ)) (scanned : Scanned κ) : Scanned κ :=
  ⟨word.uses ++ value ++ scanned.uses, word.positional.toList ++ scanned.positionals⟩

def scan (grammar : Grammar κ) : List String → Except UsageError (Scanned κ)
  | [] => .ok ⟨[], []⟩
  | word :: rest =>
    if word = "--" then .ok ⟨[], rest⟩
    else
      match grammar.readWord word with
      | .error problem => .error problem
      | .ok read =>
        match read.awaiting, rest with
        | none, rest => (scan grammar rest).map (prepend read [])
        | some key, value :: further =>
          (scan grammar further).map (prepend read [⟨key, some value⟩])
        | some _, [] => .error {}

end Grammar

namespace Scanned

def has [DecidableEq κ] (scanned : Scanned κ) (key : κ) : Bool :=
  scanned.uses.any fun use => use.key = key

def last? [DecidableEq κ] (scanned : Scanned κ) (key : κ) : Option String :=
  (scanned.uses.reverse.find? fun use => use.key = key).bind Use.value

end Scanned

theorem scan_nil (grammar : Grammar κ) : grammar.scan [] = .ok ⟨[], []⟩ := rfl

theorem scan_doubleDash (grammar : Grammar κ) (rest : List String) :
    grammar.scan ("--" :: rest) = .ok ⟨[], rest⟩ := by
  simp [Grammar.scan]

end Positional.CommandLine
