import Reconcile.Text.Digit
import Reconcile.Word

/-!
# Arguments

What the program is told on its command line: where its settings are, and what to do. Each option
takes a value, in the next word or behind an equals sign; a short option may have it right behind
it. Some options may be given by variables of the environment instead.

Words are read from left to right, and the first that is wrong or asks for help decides.
-/

namespace Reconcile

/-- What a scan is told. -/
structure ScanOptions where
  /-- The follower databases to scan; none if there are settings for that. -/
  databases : List String
  output : Option String
  metadataEndpoint : Option String
  parallelScans : Option Nat
  progressInterval : Option Nat
  deriving DecidableEq, Repr

/-- What a repair is told. -/
structure RepairOptions where
  /-- The difference file; without one differences are read from the standard input. -/
  input : Option String
  metadataEndpoint : Option String
  blobEndpoint : Option String
  olderThan : Option String
  deriving DecidableEq, Repr

/-- What to do. -/
inductive Command where
  | diff (options : ScanOptions)
  | repair (options : RepairOptions)
  deriving DecidableEq, Repr

/-- All that the program is told. -/
structure Arguments where
  /-- The file of settings. -/
  config : Option String
  command : Command
  deriving DecidableEq, Repr

/-- Why the program does nothing. -/
inductive Usage where
  /-- It was asked for help, or for its version. -/
  | help
  /-- The words are wrong. -/
  | wrong
  deriving DecidableEq, Repr

namespace Arguments

/-- What the value of an option is. -/
inductive Kind where
  /-- Any text. -/
  | text
  /-- A path, which is not empty. -/
  | path
  /-- Paths with spaces between them; the option may be repeated. -/
  | paths
  /-- A number of at most 64 bits. -/
  | number
  deriving DecidableEq, Repr

/-- An option. -/
structure Known where
  short : Option Char
  long : String
  kind : Kind
  /-- The variable that may give the value instead. -/
  fallback : Option String
  deriving DecidableEq, Repr

/-- The option for the settings, which may stand before and after the command. -/
def configOption : Known :=
  ⟨some 'c', "config", .path, none⟩

/-- The options of a scan. -/
def scanOptions : List Known :=
  [configOption,
    ⟨some 'd', "database", .paths, some "DATABASES"⟩,
    ⟨some 'o', "output", .path, some "DIFF_OUTPUT_FILE"⟩,
    ⟨none, "bucketd", .text, some "BUCKETD_HOSTPORT"⟩,
    ⟨none, "parallel-scans", .number, some "PARALLEL_SCANS"⟩,
    ⟨none, "progress-interval", .number, some "LOG_PROGRESS_INTERVAL"⟩]

/-- The options of a repair. -/
def repairOptions : List Known :=
  [configOption,
    ⟨some 'i', "input", .path, none⟩,
    ⟨none, "bucketd", .text, some "BUCKETD_HOSTPORT"⟩,
    ⟨none, "sproxyd", .text, some "SPROXYD_HOSTPORT"⟩,
    ⟨none, "older-than", .text, some "OLDER_THAN"⟩]

/-- The values given so far, by the long names of their options. -/
abbrev Given := List (String × List String)

/-- The values given for an option. -/
def valuesOf (given : Given) (name : String) : List String :=
  ((given.find? fun entry => entry.1 == name).map (·.2)).getD []

/-- The value given for an option. -/
def valueOf? (given : Given) (name : String) : Option String :=
  (valuesOf given name).head?

/-- Reads a number of at most 64 bits. A plus sign may stand in front. -/
def number? (text : String) : Option Nat :=
  (Digit.natural? text).filter (· < wordSize 64)

/-- The values that a text is for an option, if it is right. -/
def values? (kind : Kind) (text : String) : Option (List String) :=
  match kind with
  | .text => some [text]
  | .path => if text.isEmpty then none else some [text]
  | .paths =>
    let paths := text.splitOn " "
    if paths.any String.isEmpty then none else some paths
  | .number => (number? text).map fun _ => [text]

/-- Takes the value of an option. Only paths may be given several times. -/
def give (given : Given) (option : Known) (text : String) : Except Usage Given :=
  match values? option.kind text, given.find? fun entry => entry.1 == option.long with
  | none, _ => .error .wrong
  | some values, none => .ok ((option.long, values) :: given)
  | some values, some (_, before) =>
    if option.kind = .paths then
      .ok ((option.long, before ++ values) :: given.filter fun entry => entry.1 != option.long)
    else .error .wrong

/-- What a word is. -/
inductive Word where
  /-- The mark behind which no options stand. -/
  | stop
  /-- A long option, perhaps with a value. -/
  | long (name : String) (value : Option String)
  /-- A short option, perhaps with a value. -/
  | short (name : Char) (value : Option String)
  /-- Neither. -/
  | plain (text : String)
  deriving DecidableEq, Repr

/-- Tells what a word is. -/
def Word.of (text : String) : Word :=
  match text.toList with
  | ['-', '-'] => .stop
  | '-' :: '-' :: rest =>
    match rest.span (· ≠ '=') with
    | (name, []) => .long (String.ofList name) none
    | (name, _ :: value) => .long (String.ofList name) (some (String.ofList value))
  | ['-', name] => .short name none
  | '-' :: name :: '=' :: value => .short name (some (String.ofList value))
  | '-' :: name :: value => .short name (some (String.ofList value))
  | _ => .plain text

/-- Whether a word can be the value of the option before it. -/
def Word.isValue : Word → Bool
  | .plain _ => true
  | _ => false

/-- Reads options up to a word that is none: what they give, and the words from that one on. -/
def readOptions (options : List Known) (hasVersion : Bool) (given : Given) :
    List String → Except Usage (Given × List String)
  | [] => .ok (given, [])
  | text :: words =>
    match Word.of text with
    | .stop => if words.isEmpty then .ok (given, []) else .error .wrong
    | .plain _ => .ok (given, text :: words)
    | .long name value =>
      if name = "help" ∨ (hasVersion ∧ name = "version") then
        .error (if value.isNone then .help else .wrong)
      else take (options.find? fun option => option.long == name) value words
    | .short name value =>
      if name = 'h' ∨ (hasVersion ∧ name = 'V') then .error .help
      else take (options.find? fun option => option.short == some name) value words
where
  /-- Takes an option with the value given with it or in the next word, and goes on. -/
  take (option : Option Known) (value : Option String) (words : List String) :
      Except Usage (Given × List String) :=
    match option, value, words with
    | none, _, _ => .error .wrong
    | some option, some value, words => do
      readOptions options hasVersion (← give given option value) words
    | some _, none, [] => .error .wrong
    | some option, none, next :: words => do
      if (Word.of next).isValue then
        readOptions options hasVersion (← give given option next) words
      else .error .wrong

/-- Fills in values from the environment for options without one. -/
def fillIn (environment : List (String × String)) (given : Given) :
    List Known → Except Usage Given
  | [] => .ok given
  | option :: options => do
    let value := option.fallback.bind fun name =>
      (environment.find? fun entry => entry.1 == name).map (·.2)
    match value with
    | some value =>
      if given.any fun entry => entry.1 == option.long then fillIn environment given options
      else fillIn environment (← give given option value) options
    | none => fillIn environment given options

/-- The values of the options of a command. -/
def readCommand (options : List Known) (environment : List (String × String))
    (words : List String) : Except Usage Given := do
  let (given, rest) ← readOptions options false [] words
  if rest.isEmpty then fillIn environment given options else .error .wrong

/-- Tells whether the words behind the word for help are right. -/
def help (words : List String) : Usage :=
  match words with
  | [] | ["diff"] | ["repair"] | ["help"] => .help
  | _ => .wrong

/-- Reads the words of a command line, the program's name not included. -/
def parse (environment : List (String × String)) (words : List String) :
    Except Usage Arguments := do
  let (outer, rest) ← readOptions [configOption] true [] words
  let config (given : Given) : Option String :=
    (valueOf? given "config").or (valueOf? outer "config")
  match rest with
  | "diff" :: words => do
    let given ← readCommand scanOptions environment words
    return ⟨config given, .diff
      { databases := valuesOf given "database"
        output := valueOf? given "output"
        metadataEndpoint := valueOf? given "bucketd"
        parallelScans := (valueOf? given "parallel-scans").bind number?
        progressInterval := (valueOf? given "progress-interval").bind number? }⟩
  | "repair" :: words => do
    let given ← readCommand repairOptions environment words
    return ⟨config given, .repair
      { input := valueOf? given "input"
        metadataEndpoint := valueOf? given "bucketd"
        blobEndpoint := valueOf? given "sproxyd"
        olderThan := valueOf? given "older-than" }⟩
  | "help" :: words => .error (help words)
  | _ => .error .wrong

end Arguments

end Reconcile
