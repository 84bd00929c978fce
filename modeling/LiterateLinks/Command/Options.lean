/-!
# Command lines

A command line names a page and says what to do with it.  Options with a value take it from the next
argument, or attached: after an equals sign, or right after the letter of a short option.  Switches
have no value, and their letters may stand together.  After two hyphens everything is taken as it
is.

Nothing may be given twice.  An argument that starts with a hyphen is only taken as a value by the
options for delimiters, which may well look like that.
-/

namespace LiterateLinks

namespace Command

/-- The options with a value. -/
inductive Field where
  | output
  | config
  | policy
  | map
  | left
  | right
  | baseUrl
  | stylesheet
  deriving Repr, DecidableEq

/-- The switches. -/
inductive Switch where
  | inPlace
  | writeCss
  | force
  | verbose
  | help
  | version
  deriving Repr, DecidableEq

/-- All options with a value. -/
def Field.all : List Field :=
  [.output, .config, .policy, .map, .left, .right, .baseUrl, .stylesheet]

/-- All switches. -/
def Switch.all : List Switch :=
  [.inPlace, .writeCss, .force, .verbose, .help, .version]

/-- The name of an option. -/
def Field.name : Field → String
  | .output => "output"
  | .config => "config"
  | .policy => "policy"
  | .map => "map"
  | .left => "left"
  | .right => "right"
  | .baseUrl => "base-url"
  | .stylesheet => "stylesheet"

/-- The letter of an option. -/
def Field.letter? : Field → Option Char
  | .output => some 'o'
  | .config => some 'c'
  | .map => some 'm'
  | _ => none

/-- Whether an option takes values that start with a hyphen. -/
def Field.takesHyphens : Field → Bool
  | .left | .right => true
  | _ => false

/-- Whether a value is one that an option can have: paths are not empty, and policies have names. -/
def Field.accepts (value : String) : Field → Bool
  | .output | .config => !value.isEmpty
  | .policy => value == "in-page" || value == "mapped"
  | _ => true

/-- The name of a switch. -/
def Switch.name : Switch → String
  | .inPlace => "in-place"
  | .writeCss => "write-css"
  | .force => "force"
  | .verbose => "verbose"
  | .help => "help"
  | .version => "version"

/-- The letter of a switch. -/
def Switch.letter? : Switch → Option Char
  | .verbose => some 'v'
  | .help => some 'h'
  | .version => some 'V'
  | _ => none

/-- What a command line says. -/
structure Options where
  /-- The path of the page. -/
  input : String
  fields : List (Field × String) := []
  switches : List Switch := []
  deriving Repr, DecidableEq

namespace Options

/-- The value of an option, if it is given. -/
def get? (options : Options) (field : Field) : Option String :=
  options.fields.lookup field

/-- Whether a switch is given. -/
def has (options : Options) (switch : Switch) : Bool :=
  options.switches.contains switch

end Options

/-- Why a command line asks for no page to be linked. -/
inductive Stop where
  | help
  | version
  /-- The command line is not in order. -/
  | usage
  deriving Repr, DecidableEq

/-- The reader of a command line between two arguments: what it says so far, the option that waits
for its value, and whether everything that follows is taken as it is. -/
structure Reader where
  input : Option String := none
  fields : List (Field × String) := []
  switches : List Switch := []
  awaiting : Option Field := none
  plain : Bool := false

namespace Reader

/-- Takes the value of an option. -/
def takeField (reader : Reader) (field : Field) (value : String) : Except Stop Reader :=
  if (reader.fields.lookup field).isSome || !field.accepts value then .error .usage
  else .ok { reader with fields := reader.fields ++ [(field, value)], awaiting := none }

/-- Takes a switch. -/
def takeSwitch (reader : Reader) (switch : Switch) : Except Stop Reader :=
  match switch with
  | .help => .error .help
  | .version => .error .version
  | switch =>
    if reader.switches.contains switch then .error .usage
    else .ok { reader with switches := reader.switches ++ [switch] }

/-- Takes the path of the page. -/
def takeInput (reader : Reader) (path : String) : Except Stop Reader :=
  if reader.input.isSome || path.isEmpty then .error .usage
  else .ok { reader with input := some path }

/-- Takes an option or a switch by its name, and the value that is attached to it. -/
def takeLong (reader : Reader) (text : List Char) : Except Stop Reader :=
  let name := String.ofList (text.takeWhile (· != '='))
  let value := match text.dropWhile (· != '=') with
    | _ :: value => some (String.ofList value)
    | [] => none
  match Field.all.find? (·.name == name), Switch.all.find? (·.name == name), value with
  | some field, _, some value => reader.takeField field value
  | some field, _, none => .ok { reader with awaiting := some field }
  | none, some switch, none => reader.takeSwitch switch
  | none, _, _ => .error .usage

/-- Takes options and switches by their letters.  What follows the letter of an option is its
value. -/
def takeLetters (reader : Reader) : List Char → Except Stop Reader
  | [] => .ok reader
  | c :: rest =>
    match Field.all.find? (·.letter? == some c), Switch.all.find? (·.letter? == some c) with
    | some field, _ =>
      match rest with
      | [] => .ok { reader with awaiting := some field }
      | '=' :: value => reader.takeField field (String.ofList value)
      | value => reader.takeField field (String.ofList value)
    | none, some switch =>
      match reader.takeSwitch switch with
      | .ok reader => reader.takeLetters rest
      | .error stop => .error stop
    | none, none => .error .usage

/-- Takes an argument. -/
def take (reader : Reader) (argument : String) : Except Stop Reader :=
  match reader.awaiting, argument.toList with
  | some field, text =>
    if field.takesHyphens || text.head? != some '-' || text.length == 1 then
      reader.takeField field argument
    else .error .usage
  | none, text =>
    if reader.plain then reader.takeInput argument
    else
      match text with
      | ['-', '-'] => .ok { reader with plain := true }
      | '-' :: '-' :: rest => reader.takeLong rest
      | ['-'] => reader.takeInput argument
      | '-' :: rest => reader.takeLetters rest
      | _ => reader.takeInput argument

/-- What the command line says, if nothing is missing and nothing contradicts. -/
def options? (reader : Reader) : Option Options := do
  let options : Options := ⟨← reader.input, reader.fields, reader.switches⟩
  if reader.awaiting.isSome || (options.has .inPlace && (options.get? .output).isSome) then none
  else some options

end Reader

/-- Reads a command line. -/
def Options.parse (arguments : List String) : Except Stop Options := do
  let reader ← arguments.foldlM Reader.take {}
  match reader.options? with
  | some options => return options
  | none => throw .usage

end Command

end LiterateLinks
