import StatusCodes.Pattern.Atom
import StatusCodes.Text.Alphanumeric

/-!
# Patterns

A pattern describes texts: characters and classes of characters, repeated, in alternatives and in
groups. Here it is only asked whether a text is a pattern, since one that is not makes the
directive it stands in void.

A pattern is read item by item. What has been read is summed up in the groups and the classes that
are open. Of an item nothing is kept but whether it can be repeated and its depth, which is how
many patterns within patterns it holds: a pattern may not be too deep.

Patterns stand inside braces, so none holds a closing brace behind an opening one. That rules out
whatever needs both, such as counted repetitions.
-/

namespace StatusCodes.Pattern

/-- The depth of parts side by side. -/
def joined (depths : List Nat) : Nat :=
  match depths with
  | [] => 0
  | [d] => d
  | ds => 1 + ds.foldl max 0

/-- The most that a pattern may be deep. -/
def greatestDepth : Nat := 250

/-- An item of a pattern. -/
structure Item where
  depth : Nat
  repeatable : Bool
  deriving DecidableEq, Repr

/-- A group that is open, or the pattern outside all groups. -/
structure Group where
  mode : Mode
  /-- The depths of the alternatives that are complete. -/
  alternatives : List Nat
  /-- The items of the last alternative, last first. -/
  items : List Item
  deriving DecidableEq, Repr

/-- How far a class has been opened. -/
inductive Opening
  /-- Behind the bracket: the class may yet be negated. -/
  | bracket
  /-- Before the first member that is no hyphen. -/
  | hyphens
  | done
  deriving DecidableEq, Repr

/-- A class that is open. -/
structure Class where
  opening : Opening
  negated : Bool
  /-- The depth of what stands before the last operator, if there is one. -/
  left? : Option Nat
  /-- The depths of the members behind it, last first. -/
  members : List Nat
  deriving DecidableEq, Repr

/-- A pattern as far as it has been read. -/
structure State where
  group : Group
  /-- The groups around the innermost one, from the inside. -/
  around : List Group
  /-- The classes that are open, from the inside. -/
  classes : List Class
  /-- The names of groups. -/
  names : List (List Char)
  deriving DecidableEq, Repr

namespace Group

/-- A group with nothing in it. -/
def opened (m : Mode) : Group := ⟨m, [], []⟩

/-- The group with one more item. -/
def push (g : Group) (depth : Nat) (repeatable : Bool) : Group :=
  { g with items := ⟨depth, repeatable⟩ :: g.items }

/-- The depth of the last alternative. -/
def lastDepth (g : Group) : Nat :=
  joined (g.items.map Item.depth)

/-- The depth of what a group holds. -/
def depth (g : Group) : Nat :=
  joined (g.lastDepth :: g.alternatives)

/-- The group with another alternative begun. -/
def alternate (g : Group) : Group :=
  { g with alternatives := g.lastDepth :: g.alternatives, items := [] }

/-- The group with its last item repeated, if there is one that can be. -/
def repeatLast? (g : Group) : Option Group :=
  match g.items with
  | [] => none
  | i :: items =>
      if i.repeatable then some { g with items := ⟨i.depth + 1, true⟩ :: items } else none

end Group

namespace Class

/-- A class with nothing in it. -/
def opened : Class := ⟨.bracket, false, none, []⟩

/-- The depth of what a class holds. -/
def depth (k : Class) : Nat :=
  match k.left? with
  | none => joined k.members
  | some left => 1 + max left (joined k.members)

/-- The class with one more member. -/
def push (k : Class) (depth : Nat) : Class :=
  { k with members := depth :: k.members }

/-- The class behind an operator. -/
def operate (k : Class) : Class :=
  { k with left? := some k.depth, members := [] }

/-- The names of the kinds of ASCII characters. -/
def kinds : List String :=
  [ "alnum", "alpha", "ascii", "blank", "cntrl", "digit", "graph", "lower", "print", "punct",
    "space", "upper", "word", "xdigit" ]

/-- Whether a kind of ASCII characters is negated that is named behind a bracket, and what comes
behind it. -/
def kind? (text : List Char) : Option (Bool × List Char) :=
  match text with
  | ':' :: rest =>
      let negated := rest.head? == some '^'
      let rest := if negated then rest.drop 1 else rest
      match rest.dropWhile (· != ':') with
      | ':' :: ']' :: behind =>
          if kinds.contains (String.ofList (rest.takeWhile (· != ':'))) then some (negated, behind)
          else none
      | _ => none
  | _ => none

/-- Whether a kind of ASCII characters can be a member of a class. -/
def admitsKind (m : Mode) (negated : Bool) : Bool :=
  if m.unicode then !m.caseless else !negated

end Class

/-- Whether a text can be the name of a group. -/
def isGroupName (text : List Char) : Bool :=
  match text with
  | [] => false
  | c :: rest =>
      (Text.isAlphabetic c || c == '_') &&
        rest.all fun c => Text.isAlphanumeric c || "_.[]".toList.contains c

namespace State

/-- Nothing has been read. -/
def start : State := ⟨.opened .standard, [], [], []⟩

/-- How the pattern is read at the moment. -/
def mode (s : State) : Mode := s.group.mode

/-- The pattern with one more item. -/
def push (s : State) (depth : Nat) : State :=
  { s with group := s.group.push depth true }

/-- The pattern with another group open. -/
def enter (s : State) (m : Mode) : State :=
  { s with group := .opened m, around := s.group :: s.around }

/-- Behind the parenthesis that opens a group, or that holds flags. -/
def openGroup (s : State) (text : List Char) : Option (State × List Char) :=
  let named (rest : List Char) : Option (State × List Char) :=
    let name := rest.takeWhile (· != '>')
    match rest.dropWhile (· != '>') with
    | [] => none
    | _ :: rest =>
        if isGroupName name && !s.names.contains name then
          some ({ s.enter s.mode with names := name :: s.names }, rest)
        else none
  match s.mode.skip text with
  | '?' :: 'P' :: '<' :: rest => named rest
  | '?' :: '<' :: rest => named rest
  | '?' :: rest =>
      let flags := rest.takeWhile fun c => c != ':' && c != ')'
      let mode := s.mode.apply true flags
      if !Mode.areFlags flags then none
      else
        match rest.dropWhile fun c => c != ':' && c != ')' with
        | ':' :: rest => some (s.enter mode, rest)
        | ')' :: rest =>
            if flags.isEmpty then none
            else some ({ s with group := { s.group with mode := mode }.push 0 false }, rest)
        | _ => none
  | rest => some (s.enter s.mode, rest)

/-- The innermost group is complete. -/
def closeGroup (s : State) : Option State :=
  match s.around with
  | [] => none
  | g :: around => some ({ s with group := g, around := around }.push (s.group.depth + 1))

/-- One item outside all classes, or the beginning of one. -/
def item (s : State) (c : Char) (rest : List Char) : Option (State × List Char) :=
  match c with
  | '(' => s.openGroup rest
  | ')' => s.closeGroup.map (·, rest)
  | '|' => some ({ s with group := s.group.alternate }, rest)
  | '[' => some ({ s with classes := [.opened] }, rest)
  | '{' => none
  | '^' => some (s.push 0, rest)
  | '$' => some (s.push 0, rest)
  | '.' => if s.mode.unicode then some (s.push 0, rest) else none
  | '\\' =>
      (Atom.escaped? s.mode rest).bind fun (a, rest) =>
        if a.isItem s.mode then some (s.push 0, rest) else none
  | _ =>
      if "?*+".toList.contains c then
        s.group.repeatLast?.map fun g =>
          ({ s with group := g }, if rest.head? = some '?' then rest.drop 1 else rest)
      else if (Atom.literal c false).isItem s.mode then some (s.push 0, rest)
      else none

/-- The pattern with the innermost class replaced. -/
def within (s : State) (around : List Class) (k : Class) : State :=
  { s with classes := k :: around }

/-- The innermost class is complete. Bytes outside ASCII are parts of characters, so a class of
bytes cannot be negated. -/
def closeClass (s : State) (around : List Class) (k : Class) : Option State :=
  if k.negated && !s.mode.unicode then none
  else
    match around with
    | [] => some ({ s with classes := [] }.push (k.depth + 1))
    | outer :: around => some (s.within around (outer.push (k.depth + 1)))

/-- A member of a class: an atom, or a range between two. -/
def range (s : State) (around : List Class) (k : Class) (c : Char) (rest : List Char) :
    Option (State × List Char) := do
  let atom (c : Char) (rest : List Char) : Option (Atom × List Char) :=
    if c = '\\' then Atom.escaped? s.mode rest else some (.literal c false, rest)
  let (lower, rest) ← atom c rest
  if !lower.isMember s.mode then none
  else
    let single := (s.within around (k.push 0), s.mode.skip rest)
    match s.mode.skip rest with
    | '-' :: behind =>
        if s.mode.peek? behind = some ']' ∨ s.mode.peek? behind = some '-' then some single
        else
          match s.mode.skip behind with
          | [] => none
          | d :: behind => do
              let (upper, behind) ← atom d behind
              if upper.isMember s.mode && lower.areEnds upper then
                some (s.within around (k.push 0), behind)
              else none
    | _ => some single

/-- One member of a class that has been opened, an operator, or an end. -/
def member (s : State) (around : List Class) (k : Class) (c : Char) (rest : List Char) :
    Option (State × List Char) :=
  match c, rest with
  | ']', rest => (s.closeClass around k).map (·, rest)
  | '&', '&' :: rest => some (s.within around k.operate, rest)
  | '-', '-' :: rest => some (s.within around k.operate, rest)
  | '~', '~' :: rest => some (s.within around k.operate, rest)
  | '[', rest =>
      match Class.kind? rest with
      | some (negated, behind) =>
          if Class.admitsKind s.mode negated then some (s.within around (k.push 0), behind)
          else none
      | none => some ({ s with classes := .opened :: k :: around }, rest)
  | c, rest => s.range around k c rest

/-- One step inside a class. A bracket or hyphens that come first are members, and so is a caret
anywhere but behind the opening bracket. -/
def inClass (s : State) (around : List Class) (k : Class) (c : Char) (rest : List Char) :
    Option (State × List Char) :=
  let literal (opening : Opening) : Option (State × List Char) :=
    if (Atom.literal c false).isMember s.mode then
      some (s.within around { k.push 0 with opening := opening }, rest)
    else none
  if c = '^' ∧ k.opening = .bracket then
    some (s.within around { k with opening := .hyphens, negated := true }, rest)
  else if c = '-' ∧ k.opening ≠ .done then literal .hyphens
  else if c = ']' ∧ k.opening ≠ .done ∧ k.members.isEmpty then literal .done
  else s.member around { k with opening := .done } c rest

/-- One step, beginning with a character. -/
def step (s : State) (c : Char) (rest : List Char) : Option (State × List Char) :=
  match s.classes with
  | [] => s.item c rest
  | k :: around => s.inClass around k c rest

/-- A number of steps, or as many as a text takes. Every step takes at least one character. -/
def run : Nat → State → List Char → Option State
  | 0, s, text => if (s.mode.skip text).isEmpty then some s else none
  | n + 1, s, text =>
      match s.mode.skip text with
      | [] => some s
      | c :: rest => (s.step c rest).bind fun (s, rest) => run n s rest

/-- Whether the pattern may end here. -/
def isComplete (s : State) : Bool :=
  s.classes.isEmpty && s.around.isEmpty && decide (s.group.depth ≤ greatestDepth)

end State

/-- Whether a text is a pattern. -/
def isPattern (text : List Char) : Bool :=
  (State.run text.length .start text).any State.isComplete

end StatusCodes.Pattern
