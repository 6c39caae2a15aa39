import Roster.Directory.Page
import Roster.Settings.Variables

/-!
# Arguments

The arguments of the command line: flags, and options that take a value. Each may stand once. They
are handed on as variables.
-/

namespace Roster

/-- The arguments given. -/
structure Arguments where
  headless : Bool
  json : Bool
  debug : Bool
  offline : Bool
  payload : Option String
  apiUrl : Option String
  url : Option String
  database : Option String
  pageSize : Option Nat
  deriving DecidableEq, Repr

/-- A flag. -/
inductive Flag where
  | headless
  | json
  | debug
  | offline
  deriving DecidableEq, Repr

/-- An option, which takes a value. -/
inductive ValueOption where
  | payload
  | apiUrl
  | url
  | database
  | pageSize
  deriving DecidableEq, Repr

/-- Why the program does not go on with its arguments: because it was asked for help or its version,
or because they cannot be read. -/
inductive ArgumentStop where
  | help
  | version
  | unknown
  | repeated
  | needlessValue
  | missingValue
  | malformedValue
  deriving DecidableEq, Repr

/-- What a word with two dashes names. -/
inductive LongName where
  | flag (flag : Flag)
  | option (option : ValueOption)
  | help
  | version
  deriving DecidableEq, Repr

/-- The name behind two dashes. -/
def LongName.parse? : String → Option LongName
  | "headless" => some (.flag .headless)
  | "json" => some (.flag .json)
  | "debug" => some (.flag .debug)
  | "offline" => some (.flag .offline)
  | "payload" => some (.option .payload)
  | "api-url" => some (.option .apiUrl)
  | "url" => some (.option .url)
  | "db" => some (.option .database)
  | "page-size" => some (.option .pageSize)
  | "help" => some .help
  | "version" => some .version
  | _ => none

namespace Arguments

/-- No arguments at all. -/
def none : Arguments :=
  ⟨false, false, false, false, .none, .none, .none, .none, .none⟩

/-- Takes in a value that may be given once. -/
def once {α : Type} (old : Option α) (a : Arguments) : Except ArgumentStop Arguments :=
  if old.isSome then .error .repeated else .ok a

/-- Takes in a flag. -/
def raise (a : Arguments) : Flag → Except ArgumentStop Arguments
  | .headless => if a.headless then .error .repeated else .ok { a with headless := true }
  | .json => if a.json then .error .repeated else .ok { a with json := true }
  | .debug => if a.debug then .error .repeated else .ok { a with debug := true }
  | .offline => if a.offline then .error .repeated else .ok { a with offline := true }

/-- Takes in an option with its value. -/
def give (a : Arguments) (value : String) : ValueOption → Except ArgumentStop Arguments
  | .payload => once a.payload { a with payload := some value }
  | .apiUrl => once a.apiUrl { a with apiUrl := some value }
  | .url => once a.url { a with url := some value }
  | .database => once a.database { a with database := some value }
  | .pageSize =>
    if a.pageSize.isSome then .error .repeated
    else
      match word? value.toList with
      | some n => .ok { a with pageSize := some n }
      | .none => .error .malformedValue

/-- Arguments under way, with an option that has been named but not taken in, and its value if that
has been read. -/
structure Reading where
  taken : Arguments
  open_ : Option (ValueOption × Option String)
  deriving DecidableEq, Repr

namespace Reading

/-- Takes in the option that is open. -/
def settle (r : Reading) : Except ArgumentStop Arguments :=
  match r.open_ with
  | .none => .ok r.taken
  | some (_, .none) => .error .missingValue
  | some (option, some value) => r.taken.give value option

/-- Whether the next word is the value of an option. -/
def wantsValue (r : Reading) : Option ValueOption :=
  match r.open_ with
  | some (option, .none) => some option
  | _ => .none

/-- A word with two dashes, and the value attached to it. -/
def readLong (r : Reading) (name : String) (value : Option String) :
    Except ArgumentStop Reading :=
  match LongName.parse? name, value with
  | .none, _ => .error .unknown
  | some (.option option), .none => return ⟨← r.settle, some (option, .none)⟩
  | some (.option option), some value => return ⟨← (← r.settle).give value option, .none⟩
  | some _, some _ => .error .needlessValue
  | some (.flag flag), .none => return ⟨← (← r.settle).raise flag, .none⟩
  | some .help, .none => do let _ ← r.settle; throw .help
  | some .version, .none => do let _ ← r.settle; throw .version

/-- Letters behind one dash, of which the first counts. -/
def readShort (r : Reading) (letter : Char) : Except ArgumentStop Reading :=
  if letter == 'h' then do let _ ← r.settle; throw .help
  else if letter == 'V' then do let _ ← r.settle; throw .version
  else throw .unknown

/-- A word without dashes: the value of the option that is open. -/
def readPlain (r : Reading) (word : String) : Except ArgumentStop Reading :=
  match r.wantsValue with
  | some option => .ok { r with open_ := some (option, some word) }
  | .none => .error .unknown

/-- The next word. A dash by itself is a plain word. -/
def read (r : Reading) (word : String) : Except ArgumentStop Reading :=
  match word.toList with
  | '-' :: '-' :: name =>
    let behind := name.dropWhile (· != '=')
    r.readLong (String.ofList (name.takeWhile (· != '=')))
      (if behind.isEmpty then .none else some (String.ofList behind.tail))
  | '-' :: letter :: _ => r.readShort letter
  | _ => r.readPlain word

/-- Reads words in turn. Two dashes by themselves are the last word; nothing may follow them. -/
def readAll (r : Reading) : List String → Except ArgumentStop Arguments
  | [] => r.settle
  | word :: rest =>
    if word == "--" then if rest.isEmpty then r.settle else .error .unknown
    else (r.read word).bind fun r => r.readAll rest

end Reading

/-- Reads the words of the command line. -/
def parse (words : List String) : Except ArgumentStop Arguments :=
  Reading.readAll ⟨none, .none⟩ words

/-- Hands a flag on. -/
def handFlag (name : String) (raised : Bool) (v : Variables) : Variables :=
  if raised then v.set name "1" else v

/-- Hands the arguments on as variables. -/
def handOn (a : Arguments) (v : Variables) : Variables :=
  let v := v.setSome "DIRECTORY_PAYLOAD" a.payload
  let v := v.setSome "DIRECTORY_API_URL" a.apiUrl
  let v := v.setSome "DIRECTORY_START_URL" a.url
  let v := handFlag "DIRECTORY_OFFLINE" a.offline v
  let v := v.setSome "DATABASE_NAME" a.database
  let v := v.setSome "DIRECTORY_PAGE_SIZE" (a.pageSize.map toString)
  handFlag "DEBUG" a.debug v

end Arguments

end Roster
