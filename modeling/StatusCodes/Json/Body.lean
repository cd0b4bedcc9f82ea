import StatusCodes.Json.Cause
import StatusCodes.Text.Number
import StatusCodes.Text.Utf16

/-!
# The inside of a text

Between its quotation marks a text is written character by character, some of them after a
backslash. A character may also be written by its 16-bit units in four hexadecimal digits each.
Units that follow one another are collected, since two of them may make one character, and are
turned into characters when something else comes. Between the digits of a unit white space is
passed over.
-/

namespace StatusCodes.Json

/-- White space between the tokens of a document. -/
def isBlank (c : Char) : Bool :=
  c == ' ' || c == '\n' || c == '\r' || c == '\t'

/-- The character that stands for itself or another after a backslash. -/
def shortEscape? : Char → Option Char
  | '\\' => some '\\'
  | '/' => some '/'
  | '"' => some '"'
  | 'b' => some '\x08'
  | 'f' => some '\x0c'
  | 'n' => some '\n'
  | 'r' => some '\r'
  | 't' => some '\t'
  | _ => none

/-- Whether an escape is under way. -/
inductive Body.Escape
  /-- No escape. -/
  | none
  /-- A backslash has been read. -/
  | backslash
  /-- So many digits of a unit are missing behind the next one, and those before it make this
  number. -/
  | unit (missing : Nat) (value : Nat)

/-- The inside of a text as far as it has been read. Characters and the units that wait to be
turned into characters are kept last first. -/
structure Body where
  read : List Char
  waiting : List Nat
  escape : Body.Escape

namespace Body

/-- Nothing has been read. -/
def empty : Body := ⟨[], [], .none⟩

/-- The characters read so far, with those of the waiting units. -/
def settled (b : Body) : Except Cause (List Char) :=
  match Text.Utf16.decode? b.waiting.reverse with
  | some chars => .ok (chars.reverse ++ b.read)
  | none => .error (.loneSurrogate b.waiting.reverse)

/-- The body with one more character. -/
def push (b : Body) (c : Char) : Except Cause Body := do
  return ⟨c :: (← b.settled), [], .none⟩

/-- The body after one more character of the document, or the text if that closed it. -/
def next (b : Body) (c : Char) : Except Cause (Body ⊕ String) :=
  match b.escape with
  | .none =>
      if c = '\\' then .ok (.inl { b with escape := .backslash })
      else if c = '"' then return .inr (String.ofList (← b.settled).reverse)
      else if c.toNat < 0x20 then .error (.controlCharacter c)
      else return .inl (← b.push c)
  | .backslash =>
      if c = 'u' then .ok (.inl { b with escape := .unit 3 0 })
      else
        match shortEscape? c with
        | some e => return .inl (← b.push e)
        | none => .error (.noEscape c)
  | .unit missing value =>
      if isBlank c then .ok (.inl b)
      else
        match Text.hexadecimal? c with
        | none => .error (.notHexadecimal c)
        | some d =>
            let value := 16 * value + d
            match missing with
            | 0 => .ok (.inl ⟨b.read, value :: b.waiting, .none⟩)
            | m + 1 => .ok (.inl { b with escape := .unit m value })

end Body

end StatusCodes.Json
