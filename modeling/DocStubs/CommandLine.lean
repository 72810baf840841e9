import DocStubs.Config

/-!
# Command lines

A command line is a command with its options. Flags and options may stand anywhere after the
command, short ones can be run together, and a value stands after its option or is attached to
it. Two flags, for more and for fewer messages, may also stand before the command.

An option is only taken down once the next option or argument is met, or the end of the command
line. So of two faults the one that shows first is not always the one that stands first, and it is
part of the format which one is told.

## Main definitions

* `Flag`, `Setting`, `Mode` — what can be given, and where
* `Arguments` — a command line
* `UsageFault` — why a command line is refused
* `Arguments.parse` — reads a command line
-/

namespace DocStubs

/-- Why a command line is refused, or why it only asks for information. -/
inductive UsageFault where
  | unknownArgument
  | missingArgument
  | invalidCommand
  | missingCommand
  | conflict
  /-- A value that its option cannot have. -/
  | badValue
  /-- A value that is missing or empty. -/
  | noValue
  /-- A value for a flag. -/
  | needlessValue
  | help
  | version
  | helpForNothing
  deriving DecidableEq, Repr, Inhabited

namespace UsageFault

/-- The text for a fault. -/
def message : UsageFault → String
  | unknownArgument => "unexpected argument"
  | missingArgument => "a package is required"
  | invalidCommand => "unknown command"
  | missingCommand => "a command is required"
  | conflict => "arguments cannot be used together or more than once"
  | badValue => "an option cannot have this value"
  | noValue => "an option needs a value"
  | needlessValue => "a flag takes no value"
  | help | helpForNothing => "generate PACKAGE, inspect PACKAGE or version"
  | version => "version"

end UsageFault

/-- What can be given without a value. -/
inductive Flag where
  | verbose | quiet | help | version | writeIndex | writeDoc | noWriteApi | overwrite | json
  deriving DecidableEq, Repr, Inhabited

namespace Flag

/-- The long name of a flag. -/
def name : Flag → String
  | verbose => "verbose"
  | quiet => "quiet"
  | help => "help"
  | version => "version"
  | writeIndex => "write-index"
  | writeDoc => "write-doc"
  | noWriteApi => "no-write-api"
  | overwrite => "overwrite"
  | json => "json"

/-- The short name of a flag. -/
def letter? : Flag → Option Char
  | verbose => some 'v'
  | quiet => some 'q'
  | help => some 'h'
  | version => some 'V'
  | writeIndex => some 'i'
  | writeDoc | noWriteApi | overwrite | json => none

end Flag

/-- What can be given with a value. -/
inductive Setting where
  | path | config | manifest | exclude | memberOrder | source | apipath | docpath | writtenpath
  deriving DecidableEq, Repr, Inhabited

namespace Setting

/-- The long name of a setting. -/
def name : Setting → String
  | path => "path"
  | config => "config"
  | manifest => "manifest"
  | exclude => "exclude"
  | memberOrder => "member-order"
  | source => "source"
  | apipath => "apipath"
  | docpath => "docpath"
  | writtenpath => "writtenpath"

/-- The short name of a setting. -/
def letter? : Setting → Option Char
  | path => some 'p'
  | config => some 'c'
  | manifest => none
  | exclude => some 'X'
  | memberOrder => none
  | source => some 's'
  | apipath => some 'a'
  | docpath => some 'd'
  | writtenpath => some 'w'

/-- Whether a setting can be given more than once. -/
def isRepeatable : Setting → Bool
  | path => true
  | _ => false

/-- Checks a value: paths are not empty, and an order of members is one of two. -/
def check (setting : Setting) (value : String) : Except UsageFault Unit :=
  match setting with
  | path | config | manifest | source => if value.isEmpty then .error .noValue else .ok ()
  | memberOrder => if (MemberOrder.ofText? value).isNone then .error .badValue else .ok ()
  | exclude | apipath | docpath | writtenpath => .ok ()

end Setting

/-- The part of a command line that is being read: before the command, or after it. -/
inductive Mode where
  | root | generate | inspect | version
  deriving DecidableEq, Repr, Inhabited

namespace Mode

/-- The flags that can be given. -/
def flags : Mode → List Flag
  | root => [.verbose, .quiet, .help, .version]
  | generate => [.verbose, .quiet, .help, .writeIndex, .writeDoc, .noWriteApi, .overwrite]
  | inspect => [.verbose, .quiet, .help, .json]
  | version => [.verbose, .quiet, .help]

/-- The settings that concern the package. -/
def discoverySettings : List Setting := [.path, .config, .manifest, .exclude, .memberOrder]

/-- The settings that can be given. -/
def settings : Mode → List Setting
  | root | version => []
  | generate => discoverySettings ++ [.source, .apipath, .docpath, .writtenpath]
  | inspect => discoverySettings

/-- Whether a package has to be given. -/
def takesPackage : Mode → Bool
  | generate | inspect => true
  | root | version => false

/-- The command with a given name. -/
def ofCommand? (name : String) : Option Mode :=
  if name = "generate" then some generate
  else if name = "inspect" then some inspect
  else if name = "version" then some version
  else none

end Mode

/-- What has been read of a part of a command line. -/
structure Taken where
  flags : List Flag := []
  values : List (Setting × String) := []
  /-- The setting met last, with its value if that was met, too. -/
  pending : Option (Setting × Option String) := none
  package : Option String := none
  /-- Whether everything from here on is an argument. -/
  plain : Bool := false
  deriving Repr, Inhabited

namespace Taken

/-- Takes down the setting met last. -/
def settle (taken : Taken) : Except UsageFault Taken :=
  match taken.pending with
  | none => .ok taken
  | some (_, none) => .error .noValue
  | some (setting, some value) =>
    if !setting.isRepeatable && taken.values.any (·.1 = setting) then .error .conflict
    else do
      setting.check value
      return { taken with values := taken.values ++ [(setting, value)], pending := none }

/-- Takes down a flag. -/
def addFlag (taken : Taken) (flag : Flag) : Except UsageFault Taken := do
  let taken ← taken.settle
  match flag with
  | .help => throw .help
  | .version => throw .version
  | _ =>
    if taken.flags.contains flag then throw .conflict
    else return { taken with flags := taken.flags ++ [flag] }

/-- Meets a setting, with the value attached to it if there is one. -/
def addSetting (taken : Taken) (setting : Setting) (value : Option String) :
    Except UsageFault Taken := do
  let taken := { ← taken.settle with pending := some (setting, value) }
  if value.isSome then taken.settle else return taken

/-- Reads a long name, whose hyphens are read already. -/
def readLong (mode : Mode) (taken : Taken) (text : String) : Except UsageFault Taken :=
  let (name, value) :=
    match Cut.first? '=' text with
    | some (name, value) => (name, some value)
    | none => (text, none)
  match mode.flags.find? (·.name = name), mode.settings.find? (·.name = name) with
  | some flag, _ => if value.isSome then .error .needlessValue else taken.addFlag flag
  | none, some setting => taken.addSetting setting value
  | none, none => .error .unknownArgument

/-- The value attached to a short name. -/
def attached? : List Char → Option String
  | [] => none
  | '=' :: rest => some (String.ofList rest)
  | chars => some (String.ofList chars)

/-- Reads short names run together, whose hyphen is read already. -/
def readShort (mode : Mode) (taken : Taken) : List Char → Except UsageFault Taken
  | [] => .ok taken
  | c :: rest =>
    match mode.flags.find? (·.letter? = some c), mode.settings.find? (·.letter? = some c) with
    | some flag, _ =>
      match taken.addFlag flag with
      | .ok taken => readShort mode taken rest
      | .error fault => .error fault
    | none, some setting => taken.addSetting setting (attached? rest)
    | none, none => .error .unknownArgument

/-- Reads an argument that is neither an option nor its value. -/
def readPlain (mode : Mode) (taken : Taken) (text : String) : Except UsageFault Taken := do
  if mode.takesPackage && taken.package.isNone then
    return { ← taken.settle with package := some text }
  else throw .unknownArgument

/-- Reads one word of a command line after the command. -/
def readWord (mode : Mode) (taken : Taken) (word : String) : Except UsageFault Taken :=
  if taken.plain then taken.readPlain mode word
  else if word = "--" then .ok { taken with plain := true }
  else
    match word.toList with
    | '-' :: '-' :: rest => taken.readLong mode (String.ofList rest)
    | '-' :: c :: rest => taken.readShort mode (c :: rest)
    | _ =>
      match taken.pending with
      | some (setting, none) => .ok { taken with pending := some (setting, some word) }
      | _ => taken.readPlain mode word

/-- Checks that the two flags on messages are not given together. -/
def checkFlags (taken : Taken) : Except UsageFault Unit :=
  if taken.flags.contains .verbose && taken.flags.contains .quiet then .error .conflict else .ok ()

/-- Reads the words after a command. -/
def readAll (mode : Mode) (words : List String) : Except UsageFault Taken := do
  let taken ← words.foldlM (readWord mode) {}
  let taken ← taken.settle
  taken.checkFlags
  if mode.takesPackage && taken.package.isNone then throw .missingArgument
  return taken

/-- Whether a flag was given. -/
def has (taken : Taken) (flag : Flag) : Bool := taken.flags.contains flag

/-- The value of a setting, if it was given. -/
def value? (taken : Taken) (setting : Setting) : Option String :=
  (taken.values.find? (·.1 = setting)).map (·.2)

/-- All values of a setting. -/
def valuesOf (taken : Taken) (setting : Setting) : List String :=
  (taken.values.filter (·.1 = setting)).map (·.2)

end Taken

/-! ### Command lines -/

/-- Which package is meant, and how it is found. -/
structure DiscoveryArguments where
  package : String
  config : Option String := none
  paths : List String := []
  manifest : Option String := none
  exclude : Option String := none
  memberOrder : Option MemberOrder := none
  deriving DecidableEq, Repr, Inhabited

/-- Where the pages go, and which are made. -/
structure OutputArguments where
  source : Option String := none
  apipath : Option String := none
  docpath : Option String := none
  writtenpath : Option String := none
  writeIndex : Bool := false
  writeDoc : Bool := false
  noWriteApi : Bool := false
  overwrite : Bool := false
  deriving DecidableEq, Repr, Inhabited

/-- The commands. -/
inductive Command where
  | generate (discovery : DiscoveryArguments) (output : OutputArguments)
  | inspect (discovery : DiscoveryArguments) (json : Bool)
  | version
  deriving DecidableEq, Repr, Inhabited

/-- A command line. -/
structure Arguments where
  command : Command
  verbose : Bool := false
  quiet : Bool := false
  deriving DecidableEq, Repr, Inhabited

namespace DiscoveryArguments

/-- The arguments on the package among those that were given. -/
def ofTaken (taken : Taken) : DiscoveryArguments :=
  { package := taken.package.getD ""
    config := taken.value? .config
    paths := taken.valuesOf .path
    manifest := taken.value? .manifest
    exclude := taken.value? .exclude
    memberOrder := (taken.value? .memberOrder).bind MemberOrder.ofText? }

/-- What the arguments replace in a configuration. -/
def overrides (discovery : DiscoveryArguments) : Overrides :=
  { searchPaths := discovery.paths
    manifest := discovery.manifest
    exclude := discovery.exclude
    memberOrder := discovery.memberOrder }

end DiscoveryArguments

namespace OutputArguments

/-- The arguments on pages among those that were given. -/
def ofTaken (taken : Taken) : OutputArguments :=
  { source := taken.value? .source
    apipath := taken.value? .apipath
    docpath := taken.value? .docpath
    writtenpath := taken.value? .writtenpath
    writeIndex := taken.has .writeIndex
    writeDoc := taken.has .writeDoc
    noWriteApi := taken.has .noWriteApi
    overwrite := taken.has .overwrite }

/-- Adds what the arguments replace in a configuration. -/
def overrides (output : OutputArguments) (given : Overrides) : Overrides :=
  { given with
    source := output.source
    apipath := output.apipath
    docpath := output.docpath
    writtenpath := output.writtenpath
    writeIndex := output.writeIndex
    writeDoc := output.writeDoc
    noWriteApi := output.noWriteApi
    overwrite := output.overwrite }

end OutputArguments

namespace Arguments

/-- The command in a mode, with what was given after it. -/
def commandOf (mode : Mode) (taken : Taken) : Command :=
  match mode with
  | .generate => .generate (.ofTaken taken) (.ofTaken taken)
  | .inspect => .inspect (.ofTaken taken) (taken.has .json)
  | .root | .version => .version

/-- Whether the words after `help` name a command, or nothing. -/
def asksForHelp : List String → Bool
  | [] => true
  | [name] => name = "help" || (Mode.ofCommand? name).isSome
  | _ => false

/-- The fault of a word where a command should stand. -/
def commandFault (plain : Bool) (word : String) : UsageFault :=
  if plain && (word = "help" || (Mode.ofCommand? word).isSome) then .unknownArgument
  else .invalidCommand

/-- Reads the words from the start on. The flags before the command are checked after all that
follows it. -/
def parseFrom (taken : Taken) : List String → Except UsageFault Arguments
  | [] => .error (if taken.flags.isEmpty then .helpForNothing else .missingCommand)
  | word :: rest =>
    if taken.plain then .error (commandFault true word)
    else if word = "help" then .error (if asksForHelp rest then .help else .invalidCommand)
    else
      match Mode.ofCommand? word with
      | some mode => do
        let inner ← Taken.readAll mode rest
        taken.checkFlags
        return {
          command := commandOf mode inner
          verbose := taken.has .verbose || inner.has .verbose
          quiet := taken.has .quiet || inner.has .quiet }
      | none =>
        if word = "-" || !(word.toList.head? = some '-') then .error (commandFault false word)
        else
          match taken.readWord .root word with
          | .ok taken => parseFrom taken rest
          | .error fault => .error fault

/-- Reads a command line. -/
def parse (words : List String) : Except UsageFault Arguments := parseFrom {} words

end Arguments

end DocStubs
