import StatusCodes.Level
import StatusCodes.Pattern
import StatusCodes.Text.Space
import StatusCodes.Text.Stretch

/-!
# Directives

A directive is a limit for some of what happens in a program. It can be confined to a part of the
program, named by the beginning of its name, to what happens inside spans of a name, and to what
has a field of a name, perhaps with a value that fits a pattern. All of this comes before the
limit: `app[request{code=E.*}]=debug`. A limit may stand alone, and without one every level
is meant.

White space around a directive is looked past when its parts are told apart, but the places of the
parts are then counted from the beginning of the text with its white space. So space in front of a
directive moves all of its parts, and space behind it belongs to the last one.
-/

namespace StatusCodes

/-- A field that is asked for, and what is asked of its value. -/
structure FieldTest where
  name : List Char
  value? : Option (List Char)
  deriving DecidableEq, Repr

/-- A limit for some of what happens in a program. -/
structure Directive where
  /-- The beginning of the name of a part of the program, empty for every part. -/
  target : List Char
  /-- The name of a span. -/
  span? : Option (List Char)
  /-- A field. -/
  field? : Option FieldTest
  /-- The limit. Without one nothing is allowed. -/
  limit? : Option Level
  deriving DecidableEq, Repr

/-- Where the parts of a directive stand. -/
inductive Directive.Outline
  /-- The directive is a limit or the name of a part of the program. -/
  | word
  | parts (target? span? field? limit? : Option Text.Stretch)
  deriving DecidableEq, Repr

namespace Directive

open Text

/-- A limit: a level by number or name, or zero or `off` for none. -/
def limitOf? (text : List Char) : Option (Option Level) :=
  let word := String.ofList text
  if unsigned? text = some 0 ∨ sameLetters "off" word then some none
  else (Level.ofText? word).map some

/-- A field and what is asked of its value. A value is a number or a pattern. -/
def fieldOf? (text : List Char) : Option FieldTest :=
  let name := text.takeWhile (· != '=')
  match text.dropWhile (· != '=') with
  | [] => if name.isEmpty then none else some ⟨name, none⟩
  | _ :: rest =>
      let value := rest.takeWhile (· != '=')
      if isNumber value || Pattern.isPattern value then some ⟨name, some value⟩ else none

/-- Whether the name of a part of the program can begin with a character. -/
def beginsName (c : Char) : Bool :=
  isAlphanumeric c || c == '-' || c == ':' || c == '_'

/-- The limit, behind everything else. -/
def outlineLimit? (target? span? field? : Option Stretch) (place : Nat) :
    List Char → Option Outline
  | [] => some (.parts target? span? field? none)
  | '=' :: _ => some (.parts target? span? field? (some ⟨place + 1, none⟩))
  | _ => none

/-- The name of a span and a field, behind the bracket that opens this part. -/
def outlineScope? (target? : Option Stretch) (place : Nat) (text : List Char) : Option Outline :=
  let name := text.takeWhile fun c => c != ']' && c != '{'
  let stop := place + byteLength name
  match text.dropWhile fun c => c != ']' && c != '{' with
  | ']' :: rest => outlineLimit? target? (some ⟨place, some stop⟩) none (stop + 1) rest
  | '{' :: rest =>
      let field := rest.takeWhile (· != '}')
      let fieldStop := stop + 1 + byteLength field
      let span? := if name.isEmpty then none else some ⟨place, some stop⟩
      match rest.dropWhile (· != '}') with
      | '}' :: ']' :: rest =>
          outlineLimit? target? span? (some ⟨stop + 1, some fieldStop⟩) (fieldStop + 2) rest
      | _ => none
  | _ => none

/-- Where the parts of a directive stand. -/
def outline? (text : List Char) : Option Outline :=
  match text with
  | [] => none
  | '[' :: rest => outlineScope? none 1 rest
  | c :: _ =>
      if !beginsName c then none
      else
        let name := text.takeWhile fun c => c != '=' && c != '['
        let target : Stretch := ⟨0, some (byteLength name)⟩
        match text.dropWhile fun c => c != '=' && c != '[' with
        | [] => some .word
        | '[' :: rest => outlineScope? (some target) (byteLength name + 1) rest
        | rest => outlineLimit? (some target) none none (byteLength name) rest

/-- Read a part of a directive, if the directive has that part. A stretch can begin or end inside a
character, as the first does in `" é=info"`. To cut a text there breaks off the program that tries.
Here the directive is passed over, so what is said of sessions does not cover such environments. -/
def part? (text : List Char) (stretch? : Option Stretch) (read? : List Char → Option α)
    (otherwise : α) : Option α :=
  match stretch? with
  | none => some otherwise
  | some s => (s.read? text).bind read?

/-- Read a directive. -/
def ofText? (text : List Char) : Option Directive := do
  match ← outline? (trimmed text) with
  | .word =>
      match limitOf? text with
      | some limit? => return ⟨[], none, none, limit?⟩
      | none => return ⟨text, none, none, some .trace⟩
  | .parts target? span? field? limit? =>
      return {
        target := ← part? text target? some []
        span? := ← part? text span? (some ∘ some) none
        field? := ← part? text field? (fun field => (fieldOf? field).map some) none
        limit? := ← part? text limit?
          (fun limit => if limit.isEmpty then some (some .trace) else limitOf? limit)
          (some .trace) }

/-- The directives of an environment, separated by commas. What is no directive is passed over. -/
def ofEnvironment (text : String) : List Directive :=
  (text.toList.splitOn ',').filterMap ofText?

/-- Whether the directive is for a part of the program. -/
def covers (d : Directive) (target : String) : Bool :=
  d.target.isPrefixOf target.toList

/-- Whether the directive lets a level through. -/
def allows (d : Directive) (l : Level) : Bool :=
  d.limit?.any fun limit => l ≤ limit

/-- Whether the directive asks for the value of a field. -/
def asksForValue (d : Directive) : Bool :=
  d.field?.any fun f => f.value?.isSome

/-- Whether the directive can be decided on without regard to spans. -/
def isPlain (d : Directive) : Bool :=
  d.span?.isNone && !d.asksForValue

/-- Whether the directive may depend on spans. -/
def isScoped (d : Directive) : Bool :=
  d.span?.isSome || d.field?.isSome

/-- Whether two directives are for the same things. -/
def sameScope (d e : Directive) : Bool :=
  d.target = e.target && d.span? = e.span? && d.field? = e.field?

/-- The directives without those that are replaced, a later one replacing an earlier one that is
for the same things. -/
def settled : List Directive → List Directive
  | [] => []
  | d :: rest => if rest.any (sameScope d) then settled rest else d :: settled rest

/-- Whether one directive decides where another applies as well: the one with the longer name of a
part of the program, then one that asks for a field, then the one whose field is later in the
alphabet. A directive outranks itself. -/
def outranks (d e : Directive) : Bool :=
  if d.target.length ≠ e.target.length then e.target.length < d.target.length
  else
    match d.field?, e.field? with
    | none, some _ => false
    | some f, some g => !(decide (f.name < g.name))
    | _, none => true

/-- The directive that decides, the last of those that no other one outranks. -/
def deciding? (ds : List Directive) : Option Directive :=
  ds.foldl
    (fun best? d => some (best?.elim d fun best => if d.outranks best then d else best)) none

end Directive

end StatusCodes
