import StatusCodes.Config
import StatusCodes.Filter

/-!
# Loggers

A logger is the settings with which the log of a process is set up: the level up to which records
are written, whether they go to standard output, the file they go to, and whether directives of
the environment may take the place of the level.

In a configuration a logger has two entries, `level` and `file`, and a level also turns on
standard output. Entries that are not texts are passed over.
-/

namespace StatusCodes

/-- The settings of a log. -/
structure Logger where
  level : Level
  stdout : Bool
  heedsEnvironment : Bool
  file? : Option String
  deriving DecidableEq, Repr

namespace Logger

/-- Records up to information, and nowhere for them to go. -/
def standard : Logger where
  level := .info
  stdout := false
  heedsEnvironment := false
  file? := none

/-- A change to one setting. -/
inductive Setting
  | level (l : Level)
  | stdout (on : Bool)
  | environment (on : Bool)
  | file (path : String)
  deriving DecidableEq, Repr

/-- The logger with one setting changed. -/
def set (l : Logger) : Setting → Logger
  | .level v => { l with level := v }
  | .stdout on => { l with stdout := on }
  | .environment on => { l with heedsEnvironment := on }
  | .file path => { l with file? := some path }

/-- The logger after a list of settings, made in order. -/
def setAll (l : Logger) (settings : List Setting) : Logger :=
  settings.foldl set l

/-- Read a logger from a configuration. -/
def ofConfig (c : Config) : Except Unknown Logger := do
  let leveled ←
    match c.string? "level" with
    | none => .ok standard
    | some s => do
        let l ← Level.parse s
        pure ((standard.set (.level l)).set (.stdout true))
  return match c.string? "file" with
    | none => leveled
    | some path => leveled.set (.file path)

/-- Whether records have somewhere to go. -/
def hasOutput (l : Logger) : Bool :=
  l.stdout || l.file?.isSome

/-- Which records the logger writes, given the directives of the environment. -/
def filter (l : Logger) (environment : String) : Filter :=
  if l.heedsEnvironment then .ofEnvironment l.level environment else .upTo l.level

end Logger

end StatusCodes
