import StructGen.Json.Basic
import StructGen.Naming.GoName
import StructGen.Text.Quoted
import StructGen.Text.Digit
import StructGen.Text.Lines

/-!
# Options of the command line

An argument that starts with a dash is an option if its name, or an unambiguous beginning of a long
name, is known. Options of one letter may stand together behind one dash. Every argument is told
apart before any option takes effect; then the options take effect in their order.

* `Argument.ofText` tells what an argument is;
* `parse` reads a command line.
-/

namespace StructGen.CommandLine

/-! ### The options -/

/-- The options. -/
inductive Flag where
  | help
  | schemaFile
  | schemaUrl
  | package
  | output
  | customFormat
  | config
  | noComments
  | generatedHeader
  | verbose
  | version
  deriving DecidableEq, Repr

namespace Flag

/-- The names of an option. -/
def names : Flag → List String
  | .help => ["-h", "--help"]
  | .schemaFile => ["--schema-file"]
  | .schemaUrl => ["--schema-url"]
  | .package => ["--module", "--package-name"]
  | .output => ["--output-file", "-o"]
  | .customFormat => ["--custom-format"]
  | .config => ["--config"]
  | .noComments => ["--no-comments"]
  | .generatedHeader => ["--generated-header"]
  | .verbose => ["--verbose", "-v"]
  | .version => ["--version"]

/-- All options in the order in which they are listed. -/
def all : List Flag := [
  .help, .schemaFile, .schemaUrl, .package, .output, .customFormat, .config, .noComments,
  .generatedHeader, .verbose, .version]

/-- Whether an option is followed by a value. -/
def takesValue : Flag → Bool
  | .schemaFile | .schemaUrl | .package | .output | .customFormat | .config => true
  | .help | .noComments | .generatedHeader | .verbose | .version => false

/-- An option as messages name it. -/
def label (f : Flag) : String := Text.joinWith "/" f.names

/-- All names of options. -/
def named : List (String × Flag) := all.flatMap fun f => f.names.map (·, f)

/-- The option of a name. -/
def ofName? (name : String) : Option Flag := named.lookup name

end Flag

/-- What is wrong with a command line. -/
inductive UsageFault where
  | ambiguous (argument : String) (names : List String)
  | valueMissing (flag : Flag)
  | valueIgnored (flag : Flag) (value : String)
  | conflict (flag other : Flag)
  | sourceMissing
  | unrecognized (arguments : List String)
  deriving DecidableEq, Repr

/-- The wording of a fault of the command line. -/
def UsageFault.message : UsageFault → String
  | .ambiguous argument names =>
    "ambiguous option: " ++ argument ++ " could match " ++ Text.joinWith ", " names
  | .valueMissing flag => "argument " ++ flag.label ++ ": expected one argument"
  | .valueIgnored flag value =>
    "argument " ++ flag.label ++ ": ignored explicit argument " ++ Text.quoted value
  | .conflict flag other =>
    "argument " ++ flag.label ++ ": not allowed with argument " ++ other.label
  | .sourceMissing =>
    "one of the arguments " ++ Flag.schemaFile.label ++ " " ++ Flag.schemaUrl.label ++ " is required"
  | .unrecognized arguments => "unrecognized arguments: " ++ Text.joinWith " " arguments

/-! ### Arguments -/

/-- An option as it is written. -/
structure OptionMatch where
  flag : Flag
  /-- Whether the option is written with one dash. -/
  short : Bool
  /-- What is written together with the option, behind an equals sign or at once. -/
  attached : Option (List Char)
  deriving DecidableEq, Repr

/-- What an argument is. -/
inductive Argument where
  | value (text : String)
  /-- The end of the options. -/
  | terminator
  | option (m : OptionMatch)
  | unknown (text : String)
  deriving DecidableEq, Repr

/-- Whether an argument is a negative number. -/
def isNegativeNumber (cs : List Char) : Bool :=
  match Naming.dropFinalNewline cs with
  | '-' :: cs =>
    let whole := cs.takeWhile Text.isDecimalDigit
    match cs.dropWhile Text.isDecimalDigit with
    | [] => !whole.isEmpty
    | '.' :: fraction => !fraction.isEmpty && fraction.all Text.isDecimalDigit
    | _ => false
  | _ => false

/-- A text up to its first equals sign, and the value behind it. -/
def cutEquals (cs : List Char) : List Char × Option (List Char) :=
  match cs.dropWhile (· != '=') with
  | _ :: value => (cs.takeWhile (· != '='), some value)
  | [] => (cs, none)

/-- The options that a long argument may mean, with their names. -/
def longMatches (cs : List Char) : List (String × OptionMatch) :=
  let (start, attached) := cutEquals cs
  (Flag.named.filter fun e => start.isPrefixOf e.1.toList).map fun (name, flag) =>
    (name, ⟨flag, false, attached⟩)

/-- The options that an argument with one dash may mean: the one of its first letter. -/
def shortMatches (cs : List Char) : List (String × OptionMatch) :=
  (Flag.named.filter fun e => e.1.toList == cs.take 2).map fun (name, flag) =>
    (name, ⟨flag, true, some (cs.drop 2)⟩)

/-- Whether a name is written with one dash. -/
def isShort (cs : List Char) : Bool := cs[1]? != some '-'

/-- The option that an argument names in full, alone or before an equals sign. -/
def exactMatch? (text : String) : Option OptionMatch :=
  match Flag.ofName? text with
  | some flag => some ⟨flag, isShort text.toList, none⟩
  | none =>
    let (start, attached) := cutEquals text.toList
    match attached with
    | none => none
    | some _ => (Flag.ofName? (String.ofList start)).map fun flag => ⟨flag, isShort start, attached⟩

/-- What an argument before the end of the options is. -/
def Argument.ofText (text : String) : Except UsageFault Argument :=
  let cs := text.toList
  if cs.head? != some '-' || cs.length == 1 then .ok (.value text)
  else match exactMatch? text with
    | some m => .ok (.option m)
    | none =>
      match if isShort cs then shortMatches cs else longMatches cs with
      | [(_, m)] => .ok (.option m)
      | [] =>
        if isNegativeNumber cs || cs.contains ' ' then .ok (.value text) else .ok (.unknown text)
      | names => .error (.ambiguous text (names.map (·.1)))

/-- What the arguments of a command line are. -/
def arguments : List String → Except UsageFault (List Argument)
  | [] => .ok []
  | text :: texts =>
    if text == "--" then .ok (.terminator :: texts.map .value)
    else do
      let a ← Argument.ofText text
      return a :: (← arguments texts)

/-! ### Reading the options -/

/-- The value of an option. The mark that ends the options stands for no value when it is written
together with its option. -/
inductive OptionValue where
  | text (value : String)
  | nothing
  deriving DecidableEq, Repr

namespace OptionValue

/-- The value that is written together with its option. -/
def ofAttached (cs : List Char) : OptionValue :=
  if cs = ['-', '-'] then .nothing else .text (String.ofList cs)

/-- A value as a setting: no value is an empty list. -/
def toJson : OptionValue → Json
  | .text value => .str value
  | .nothing => .arr []

/-- The text of a value. -/
def text? : OptionValue → Option String
  | .text value => some value
  | .nothing => none

end OptionValue

/-- What a command line asks for. -/
structure Options where
  schemaFile : Option OptionValue := none
  schemaUrl : Option OptionValue := none
  package : Option OptionValue := none
  output : Option OptionValue := none
  customFormats : List OptionValue := []
  config : Option OptionValue := none
  noComments : Bool := false
  generatedHeader : Bool := false
  verbosity : Nat := 0
  /-- The arguments that mean nothing. -/
  unrecognized : List String := []
  deriving DecidableEq, Repr

/-- Why a command line asks for no run. -/
inductive Ending where
  | help
  | version
  | usage (fault : UsageFault)
  deriving DecidableEq, Repr

/-- The options that one argument stands for. The value of the last is missing if it may follow in
the next argument. -/
abbrev Cluster := List (Flag × Option OptionValue)

/-- The options of an argument with something attached to its first option: a value, or further
options of one letter. -/
def clusterFrom (flag : Flag) (short : Bool) : List Char → Except UsageFault Cluster
  | [] =>
    if flag.takesValue then .ok [(flag, some (.text ""))] else .error (.valueIgnored flag "")
  | c :: cs =>
    if flag.takesValue then .ok [(flag, some (.ofAttached (c :: cs)))]
    else if !short then .error (.valueIgnored flag (String.ofList (c :: cs)))
    else match Flag.ofName? (String.ofList ['-', c]), cs with
      | none, _ => .error (.valueIgnored flag (String.ofList (c :: cs)))
      | some next, [] => .ok [(flag, none), (next, none)]
      | some next, cs => ((flag, none) :: ·) <$> clusterFrom next true cs

/-- The options of an argument. -/
def OptionMatch.cluster (m : OptionMatch) : Except UsageFault Cluster :=
  match m.attached with
  | none => .ok [(m.flag, none)]
  | some cs => clusterFrom m.flag m.short cs

namespace Options

/-- An argument that means nothing. -/
def ignore (o : Options) (text : String) : Options :=
  { o with unrecognized := o.unrecognized ++ [text] }

/-- Let an option take effect. -/
def take (o : Options) (flag : Flag) (value : OptionValue) : Except Ending Options :=
  match flag with
  | .help => .error .help
  | .version => .error .version
  | .schemaFile =>
    if o.schemaUrl.isSome then .error (.usage (.conflict flag .schemaUrl))
    else .ok { o with schemaFile := some value }
  | .schemaUrl =>
    if o.schemaFile.isSome then .error (.usage (.conflict flag .schemaFile))
    else .ok { o with schemaUrl := some value }
  | .package => .ok { o with package := some value }
  | .output => .ok { o with output := some value }
  | .customFormat => .ok { o with customFormats := o.customFormats ++ [value] }
  | .config => .ok { o with config := some value }
  | .noComments => .ok { o with noComments := true }
  | .generatedHeader => .ok { o with generatedHeader := true }
  | .verbose => .ok { o with verbosity := o.verbosity + 1 }

/-- Let the options of an argument take effect, `next` being the value of those that lack one. -/
def takeAll (o : Options) (c : Cluster) (next : String) : Except Ending Options :=
  c.foldlM (fun o (flag, value) => o.take flag (value.getD (.text next))) o

end Options

/-- The option of an argument that needs the next argument for its value. -/
def Cluster.lacking? (c : Cluster) : Option Flag :=
  (c.find? fun (flag, value) => flag.takesValue && value.isNone).map (·.1)

/-- Let the arguments take effect in their order. -/
def takeArguments (o : Options) : List Argument → Except Ending Options
  | [] => .ok o
  | .value text :: rest => takeArguments (o.ignore text) rest
  | .unknown text :: rest => takeArguments (o.ignore text) rest
  | .terminator :: rest => takeArguments (o.ignore "--") rest
  | .option m :: rest =>
    match m.cluster with
    | .error fault => .error (.usage fault)
    | .ok c =>
      match c.lacking?, rest with
      | none, rest => do takeArguments (← o.takeAll c "") rest
      | some _, .value text :: rest => do takeArguments (← o.takeAll c text) rest
      | some flag, _ => .error (.usage (.valueMissing flag))

/-- Read a command line. Exactly one source of the document must be named. -/
def parse (argv : List String) : Except Ending Options := do
  let args ← match arguments argv with
    | .ok args => pure args
    | .error fault => throw (.usage fault)
  let o ← takeArguments {} args
  if o.schemaFile.isNone && o.schemaUrl.isNone then throw (.usage .sourceMissing)
  if !o.unrecognized.isEmpty then throw (.usage (.unrecognized o.unrecognized))
  return o

end StructGen.CommandLine
