import MethodSig.Settings

/-!
# `Request` — what the arguments ask for

There are two commands, `signature` and `split`. The command is the first argument; options and the
one text to work on follow in any order. An option is given by its letter or by its name, and its
value stands in the next argument or is attached: `-o F`, `-oF`, `-o=F`, `--output F`, `--output=F`.
Behind `--` every argument is a text.

Letters can share one dash, as in `-ho json`, and there `V` is a letter too, though no command has
a use for it. Where several characters behind one dash are not all letters of options, the argument
is a text, dash included, so that a signature or a number may begin with a dash. A single letter is
always an option, known or not.

The arguments are first sorted into *items*, one by one, then the items of a command are gathered. A
request for help wins over everything that is wrong with the arguments, and an output format that
does not exist wins over everything else.
-/

namespace MethodSig.CommandLine

/-! ## Items -/

/-- The options that have a value. -/
inductive OptionName where
  /-- The output format: `-o`, `--output`. -/
  | output
  /-- Delimiters: `-d`, `--delimiter`. -/
  | delimiter
deriving DecidableEq

/-- How an option is written. -/
inductive Spelling where
  /-- By its letter, behind one dash. -/
  | letter
  /-- By its name, behind two dashes. -/
  | name
deriving DecidableEq

/-- The text of an option. -/
def OptionName.text : OptionName → Spelling → String
  | output, .letter => "-o"
  | output, .name => "--output"
  | delimiter, .letter => "-d"
  | delimiter, .name => "--delimiter"

/-- What an argument, or a part of it, is. -/
inductive Item where
  /-- A request for help: `-h`, `--help`. -/
  | help
  /-- An option, with its value if that is attached. -/
  | option (name : OptionName) (spelling : Spelling) (attached : Option String)
  /-- A text, or the value of the option in front of it. -/
  | word (text : String)
  /-- An option that there is not. -/
  | unknown
deriving DecidableEq

/-- The item of a long name and an attached value. -/
def Item.ofName (name : String) (attached : Option String) : Item :=
  if name = "help" then .help
  else if name = "output" then .option .output .name attached
  else if name = "delimiter" then .option .delimiter .name attached
  else .unknown

/-- The item of a letter and an attached value. -/
def Item.ofLetter (letter : Char) (attached : Option String) : Item :=
  if letter = 'h' then .help
  else if letter = 'o' then .option .output .letter attached
  else if letter = 'd' then .option .delimiter .letter attached
  else .unknown

/-- The items of several letters behind one dash, if all of them are known. Letters behind one that
takes a value are that value. -/
def letterItems? : List Char → Option (List Item)
  | [] => some []
  | letter :: rest =>
    if letter = 'o' || letter = 'd' then
      some [.ofLetter letter (if rest.isEmpty then none else some (String.ofList rest))]
    else if letter = 'h' || letter = 'V' then
      (letterItems? rest).map (.ofLetter letter none :: ·)
    else none

/-- The items of an argument that begins with one dash and a letter, behind which `rest` stands.
With an equals sign in it, the rest is the value of the letter, which has to be of ASCII. -/
def shortItems? (letter : Char) (rest : List Char) : Option (List Item) :=
  if rest.isEmpty then some [.ofLetter letter none]
  else if rest.contains '=' then
    let value := if rest.head? = some '=' then rest.tail else rest
    if letter.toNat < 0x80 then some [.ofLetter letter (some (String.ofList value))] else none
  else letterItems? (letter :: rest)

/-- The item of an argument that begins with two dashes; `s` stands behind them. -/
def longItem (s : List Char) : Item :=
  let name := String.ofList (s.takeWhile (· != '='))
  match s.dropWhile (· != '=') with
  | '=' :: value => .ofName name (some (String.ofList value))
  | _ => .ofName name none

/-- The items of one argument. A dash alone is a text, and so is an argument that is not understood
behind its dash. -/
def itemsOfArgument (argument : String) : List Item :=
  match argument.toList with
  | '-' :: '-' :: s => [longItem s]
  | '-' :: letter :: rest => (shortItems? letter rest).getD [.word argument]
  | _ => [.word argument]

/-- The items in front of `--`, and the texts behind it. -/
def itemsOfArguments : List String → List Item × List String
  | [] => ([], [])
  | argument :: rest =>
    if argument = "--" then ([], rest)
    else
      let (items, texts) := itemsOfArguments rest
      (itemsOfArgument argument ++ items, texts)

/-! ## Gathering -/

/-- A value of an option, and how it was given. -/
structure Given where
  /-- How the option is written. -/
  spelling : Spelling
  /-- Whether the value is attached to the option. -/
  attached : Bool
  /-- The value. -/
  value : String
deriving DecidableEq

/-- What the items of a command amount to. -/
structure Gathered where
  /-- The options with their values; an option whose value is missing has none. -/
  options : List (OptionName × Option Given) := []
  /-- The texts. -/
  texts : List String := []
  /-- Whether there is anything else. -/
  strange : Bool := false

/-- The items gathered in front of the texts that stand behind `--`. An option without an attached
value takes the next item, which has to be a word. -/
def gather (texts : List String) : List Item → Gathered
  | [] => { texts }
  | .option name spelling none :: .word value :: items =>
    let g := gather texts items
    { g with options := (name, some ⟨spelling, false, value⟩) :: g.options }
  | .option name spelling attached :: items =>
    let g := gather texts items
    { g with options := (name, attached.map fun value => ⟨spelling, true, value⟩) :: g.options }
  | .word text :: items =>
    let g := gather texts items
    { g with texts := text :: g.texts }
  | .help :: items | .unknown :: items => { gather texts items with strange := true }

/-- The values that were given for an option, in order. -/
def Gathered.values (g : Gathered) (name : OptionName) : List (Option Given) :=
  (g.options.filter (·.1 = name)).map (·.2)

/-! ## Requests -/

/-- The names of the commands. -/
inductive CommandName where
  | signature
  | split
deriving DecidableEq

/-- A command and what it works on. -/
inductive Command where
  /-- Read the signature in `text`. -/
  | signature (output : Option OutputFormat) (text : String)
  /-- Cut `source` at the characters of the delimiters. -/
  | split (output : Option OutputFormat) (delimiters : List String) (source : String)
deriving DecidableEq

/-- What the arguments ask for. -/
inductive Request where
  /-- Help, on a command or on all of them. -/
  | help (topic : Option CommandName)
  /-- To run a command. -/
  | command (c : Command)
deriving DecidableEq

/-- Why the arguments cannot be understood. -/
inductive ArgumentError where
  /-- They do not fit the commands. -/
  | usage
  /-- The value that was given for the output option names no output format. -/
  | format (given : Given) (e : UnknownFormat)
deriving DecidableEq

/-- The output format among gathered items, which is looked at before all else. -/
def Gathered.output (g : Gathered) : Except ArgumentError (Option OutputFormat) :=
  match g.values .output with
  | [] => .ok none
  | none :: _ => .error .usage
  | some given :: others =>
    match OutputFormat.ofName given.value with
    | .error e => .error (.format given e)
    | .ok output => if others.isEmpty then .ok (some output) else .error .usage

/-- The delimiters among gathered items. -/
def Gathered.delimiters (g : Gathered) : Except ArgumentError (List String) :=
  if (g.values .delimiter).all Option.isSome then
    .ok ((g.values .delimiter).filterMap fun given => given.map Given.value)
  else .error .usage

/-- The one text among gathered items, if there is nothing strange. -/
def Gathered.text (g : Gathered) : Except ArgumentError String :=
  match g.strange, g.texts with
  | false, [text] => .ok text
  | _, _ => .error .usage

/-- The command that gathered items amount to. -/
def Command.ofGathered (name : CommandName) (g : Gathered) : Except ArgumentError Command := do
  let output ← g.output
  let delimiters ← g.delimiters
  let text ← g.text
  match name with
  | .split => return .split output delimiters text
  | .signature => if delimiters.isEmpty then return .signature output text else .error .usage

/-- The command that an item names. -/
def CommandName.ofItem? : Item → Option CommandName
  | .word text =>
    if text = "signature" then some .signature else if text = "split" then some .split else none
  | _ => none

/-- What the arguments ask for. -/
def Request.ofArguments (arguments : List String) : Except ArgumentError Request :=
  let (items, texts) := itemsOfArguments arguments
  let name := items.head?.bind CommandName.ofItem?
  if items.contains .help then .ok (.help name)
  else
    match name with
    | none => .error .usage
    | some name => (Command.ofGathered name (gather texts items.tail)).map .command

end MethodSig.CommandLine
