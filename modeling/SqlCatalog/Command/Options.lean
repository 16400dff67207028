-- SUMMARY: Reading a command line.
import SqlCatalog.Command.Request

/-!
# Options

A command line is cut into items: flags, settings with their values, and words.
The items are then taken in order. A request for the version or for help takes
effect where it stands, and so does the first mistake.
-/

namespace SqlCatalog.Command

/-! ## Names -/

inductive Flag where
  | verbose
  | quiet
  | version
  | help
deriving DecidableEq, Repr

namespace Flag

def ofLetter? : Char → Option Flag
  | 'v' => some .verbose
  | 'q' => some .quiet
  | 'V' => some .version
  | 'h' => some .help
  | _ => none

def ofName? : String → Option Flag
  | "verbose" => some .verbose
  | "quiet" => some .quiet
  | "version" => some .version
  | "help" => some .help
  | _ => none

end Flag

/-- An option that takes a value. -/
inductive Setting where
  | schema
  | directory
  | config
  | dialect
  | format
  | previous
  | table
  | view
deriving DecidableEq, Repr

namespace Setting

def name : Setting → String
  | .schema => "schema"
  | .directory => "schema-dir"
  | .config => "config"
  | .dialect => "dialect"
  | .format => "format"
  | .previous => "previous"
  | .table => "table"
  | .view => "view"

def letter? : Setting → Option Char
  | .schema => some 's'
  | .config => some 'c'
  | .dialect => some 'd'
  | .format => some 'f'
  | .table => some 't'
  | .directory => none
  | .previous => none
  | .view => none

def isRepeatable : Setting → Bool
  | .schema => true
  | .previous => true
  | _ => false

/-- Paths are not empty, and a format is one of the known ones. -/
def accepts (s : Setting) (value : String) : Bool :=
  match s with
  | .schema => value ≠ ""
  | .directory => value ≠ ""
  | .config => value ≠ ""
  | .previous => value ≠ ""
  | .format => (Format.ofText? value).isSome
  | .dialect => true
  | .table => true
  | .view => true

end Setting

def Subcommand.settings (c : Subcommand) : List Setting :=
  [.schema, .directory, .config, .dialect, .format] ++
    match c with
    | .ddl => [.previous, .table]
    | .schema => []
    | .compile => [.table, .view]

/-! ## Items -/

inductive Item where
  | flag (f : Flag)
  | setting (s : Setting) (value : String)
  | word (text : String)
  | mistake
deriving DecidableEq, Repr

namespace Item

/-- The letters after a dash. A setting takes the letters after its own as its value, an
equals sign aside; without any, it waits for the next argument. -/
def ofLetters (settings : List Setting) : List Char → List Item × Option Setting
  | [] => ([], none)
  | c :: rest =>
    match Flag.ofLetter? c with
    | some f =>
      let (items, waiting) := ofLetters settings rest
      (.flag f :: items, waiting)
    | none =>
      match settings.find? fun s => s.letter? = some c with
      | none => ([.mistake], none)
      | some s =>
        match rest with
        | [] => ([], some s)
        | '=' :: value => ([.setting s (String.ofList value)], none)
        | value => ([.setting s (String.ofList value)], none)

/-- What follows two dashes: a name, and after an equals sign a value. -/
def ofName (settings : List Setting) (text : List Char) : List Item × Option Setting :=
  let name := String.ofList (text.takeWhile fun c => c ≠ '=')
  let value := match text.dropWhile fun c => c ≠ '=' with
    | [] => none
    | _ :: value => some (String.ofList value)
  match Flag.ofName? name, value with
  | some f, none => ([.flag f], none)
  | some _, some _ => ([.mistake], none)
  | none, _ =>
    match settings.find? fun s => s.name = name, value with
    | none, _ => ([.mistake], none)
    | some s, none => ([], some s)
    | some s, some value => ([.setting s value], none)

/-- Whether an argument cannot be a word or a value. A single dash can. -/
def looksLikeOption (arg : String) : Bool :=
  match arg.toList with
  | '-' :: _ :: _ => true
  | _ => false

/-- One argument that stands where no value is due. -/
def ofArgument (settings : List Setting) (arg : String) : List Item × Option Setting :=
  match arg.toList with
  | '-' :: '-' :: name => ofName settings name
  | '-' :: c :: letters => ofLetters settings (c :: letters)
  | _ => ([.word arg], none)

/-- The items of some arguments; after two dashes alone there are only words. -/
def ofArguments (settings : List Setting) : Option Setting → List String → List Item
  | none, [] => []
  | some _, [] => [.mistake]
  | some s, arg :: rest =>
    if looksLikeOption arg then [.mistake]
    else .setting s arg :: ofArguments settings none rest
  | none, arg :: rest =>
    if arg = "--" then rest.map .word
    else
      let (items, waiting) := ofArgument settings arg
      items ++ ofArguments settings waiting rest

end Item

/-! ## Selections -/

/-- What the items after a subcommand have said so far. -/
structure Selection where
  values : List (Setting × String)
  words : List String
  quiet : Bool
deriving DecidableEq, Repr

namespace Selection

def empty : Selection := ⟨[], [], false⟩

def all (sel : Selection) (s : Setting) : List String :=
  sel.values.filterMap fun (t, value) => if t = s then some value else none

def first? (sel : Selection) (s : Setting) : Option String := (sel.all s).head?

/-- How many words a subcommand takes. -/
def wordCount : Subcommand → Nat
  | .compile => 1
  | _ => 0

/-- Take one more item, unless it ends the reading. -/
def take (c : Subcommand) (sel : Selection) : Item → Except Request Selection
  | .flag .version => .error (.version (some c))
  | .flag .help => .error (.help (some c))
  | .flag .verbose => .ok sel
  | .flag .quiet => if sel.quiet then .error .misuse else .ok { sel with quiet := true }
  | .setting s value =>
    if !s.accepts value || (!s.isRepeatable && (sel.first? s).isSome) then .error .misuse
    else .ok { sel with values := sel.values ++ [(s, value)] }
  | .word text =>
    if text = "" || sel.words.length ≥ wordCount c then .error .misuse
    else .ok { sel with words := sel.words ++ [text] }
  | .mistake => .error .misuse

def source (sel : Selection) (config : Option String) : Source where
  schema := sel.all .schema
  directory := sel.first? .directory
  config := config
  dialect := sel.first? .dialect
  format := (sel.first? .format).bind Format.ofText?

def task? (c : Subcommand) (sel : Selection) : Option Task :=
  match c with
  | .ddl => some (.ddl (sel.all .previous) (sel.first? .table))
  | .schema => some .schema
  | .compile =>
    match sel.words, sel.first? .table, sel.first? .view with
    | [query], some table, some view => some (.compile query table view)
    | _, _, _ => none

/-- The request of a whole selection. The configuration file may also be named by the
environment; the command line comes first. -/
def request (c : Subcommand) (environment : Option String) (quiet : Bool) (sel : Selection) :
    Request :=
  let config := (sel.first? .config).or environment
  if config = some "" then .misuse
  else
    match sel.task? c with
    | none => .misuse
    | some task => .run ⟨sel.source config, task, quiet || sel.quiet⟩

end Selection

/-! ## Requests -/

namespace Request

/-- The request of the arguments after a subcommand. -/
def ofSubcommand (c : Subcommand) (environment : Option String) (quiet : Bool)
    (args : List String) : Request :=
  match (Item.ofArguments c.settings none args).foldlM (Selection.take c) Selection.empty with
  | .error request => request
  | .ok sel => sel.request c environment quiet

/-- Help may be asked for one subcommand by name. -/
def ofHelp : List String → Request
  | [] => .help none
  | ["help"] => .help none
  | [name] =>
    match Subcommand.ofText? name with
    | some c => .help (some c)
    | none => .misuse
  | _ => .misuse

/-- Flags before the subcommand. -/
def takeFlag (quiet : Bool) : Item → Except Request Bool
  | .flag .version => .error (.version none)
  | .flag .help => .error (.help none)
  | .flag .verbose => .ok quiet
  | .flag .quiet => if quiet then .error .misuse else .ok true
  | _ => .error .misuse

/-- The arguments of the program, some flags of which have been read. -/
def ofRest (environment : Option String) (quiet : Bool) : List String → Request
  | [] => .misuse
  | arg :: rest =>
    if Item.looksLikeOption arg then
      match (Item.ofArgument [] arg).1.foldlM takeFlag quiet with
      | .error request => request
      | .ok quiet => ofRest environment quiet rest
    else
      match Subcommand.ofText? arg with
      | some c => ofSubcommand c environment quiet rest
      | none => if arg = "help" then ofHelp rest else .misuse

def ofArguments (environment : Option String) (args : List String) : Request :=
  ofRest environment false args

end Request

end SqlCatalog.Command
