import CommitLens.Files.Tree

/-!
# Sessions

What a run sees of its surroundings and what it does to them.  A session reads a
`World`, which it does not change, and leaves a list of events; it may end with
an error, after which nothing more happens.
-/

namespace CommitLens

/-- What comes of a command of the version control system. -/
inductive CommandOutcome where
  | finished (code : Int) (output errors : String)
  /-- The command could not be started. -/
  | notStarted (reason : String)
  deriving Repr, BEq, DecidableEq, Inhabited

/-- Does a text have a null character?  The system takes no such text, neither as a path nor in
a command. -/
def Text.hasNull (text : String) : Bool :=
  text.toList.contains '\x00'

def nullCharacterMessage : String :=
  "embedded null byte"

structure World where
  /-- The answer to the arguments of a command. -/
  command : List String → CommandOutcome
  files : FileTree
  /-- The directory that relative paths start from. -/
  directory : String

namespace World

/-- The absolute path that a path stands for. -/
def locate (world : World) (path : String) : String :=
  if path.startsWith "/" then path else world.directory ++ "/" ++ path

def isPresent (world : World) (path : String) : Bool :=
  world.files.isPresent (world.locate path)

/-- The text of a file, its line ends unified. -/
def readText (world : World) (path : String) : Except ReadFault String :=
  match world.files.read (world.locate path) with
  | .error fault => .error (.file fault path)
  | .ok bytes =>
      match Text.decodeUtf8 bytes with
      | .error fault => .error (.text fault)
      | .ok text => .ok (String.ofList (Text.unifyLineFeeds text.toList))

/-- The world with a text written to a file. -/
def writeText (world : World) (path text : String) :
    Except FileFault (List String × World) := do
  let (names, files) ← world.files.write (world.locate path) text.toUTF8.toList
  return (names, { world with files })

end World

inductive Level where
  | warning
  | error
  deriving Repr, BEq, DecidableEq

def Level.text : Level → String
  | warning => "WARNING"
  | error => "ERROR"

inductive Event where
  | ran (arguments : List String)
  | logged (level : Level) (message : String)
  /-- A line about what is going on. -/
  | noted (line : String)
  | printed (text : String)
  | wrote (path : List String) (content : String)
  deriving Repr, BEq, DecidableEq

def Session (ε α : Type) : Type :=
  World → List Event × Except ε α

namespace Session

variable {ε α β : Type}

protected def pure (a : α) : Session ε α :=
  fun _ => ([], .ok a)

protected def bind (x : Session ε α) (f : α → Session ε β) : Session ε β :=
  fun world =>
    match x world with
    | (events, .ok a) =>
        let (more, result) := f a world
        (events ++ more, result)
    | (events, .error e) => (events, .error e)

instance : Monad (Session ε) where
  pure := Session.pure
  bind := Session.bind

/-- Go on with another session when one fails. -/
protected def recover (x : Session ε α) (handle : ε → Session ε α) : Session ε α :=
  fun world =>
    match x world with
    | (events, .ok a) => (events, .ok a)
    | (events, .error e) =>
        let (more, result) := handle e world
        (events ++ more, result)

instance : MonadExceptOf ε (Session ε) where
  throw e := fun _ => ([], .error e)
  tryCatch := Session.recover

def world : Session ε World :=
  fun world => ([], .ok world)

def emit (event : Event) : Session ε Unit :=
  fun _ => ([event], .ok ())

def log (level : Level) (message : String) : Session ε Unit :=
  emit (.logged level message)

/-- The result of a session as a value; this never fails. -/
def attempt {δ : Type} (x : Session ε α) : Session δ (Except ε α) :=
  fun world =>
    let (events, result) := x world
    (events, .ok result)

/-- A session with errors of another type. -/
def mapError {δ : Type} (f : ε → δ) (x : Session ε α) : Session δ α :=
  fun world =>
    let (events, result) := x world
    (events, result.mapError f)

/-- A result as a session without events. -/
def ofExcept (result : Except ε α) : Session ε α :=
  fun _ => ([], result)

/-- A session in a changed world. -/
def within (change : World → World) (x : Session ε α) : Session ε α :=
  fun world => x (change world)

/-- Run a command of the version control system. -/
def command (arguments : List String) : Session ε CommandOutcome :=
  fun world => ([.ran arguments], .ok (world.command arguments))

end Session

namespace Event

/-- The commands that were run, in their order. -/
def commands (events : List Event) : List (List String) :=
  events.filterMap fun
    | .ran arguments => some arguments
    | _ => none

end Event

end CommitLens
