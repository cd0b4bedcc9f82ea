import StatusCodes.Association
import StatusCodes.Json.Body
import StatusCodes.Json.Numeral

/-!
# Reading a document

A document is read one character at a time. What has been read is summed up in a state: the
containers that are still open, outermost last, and what is being read at the moment. Reading a
text is then a run over its characters, so that what holds of a text can be said of its two halves
in turn: `run_append` is the law behind every statement about beginnings of documents.

A number ends only with the character after it. That character closes the number first and is
then read as itself.
-/

namespace StatusCodes.Json

/-- What an open container is waiting for a value to be. -/
inductive Frame
  /-- An item, after these, last first. -/
  | item (before : List Json)
  /-- A key, after these members. -/
  | key (before : List (String × Json))
  /-- The value of a key, after these members. -/
  | member (before : List (String × Json)) (key : String)

/-- Where a reader stands between two tokens. -/
inductive Spot
  /-- Before a value. -/
  | value
  /-- Behind the opening bracket of an array. -/
  | arrayOpen
  /-- Behind the opening bracket of an object. -/
  | objectOpen
  /-- Behind an item. -/
  | arrayRest (items : List Json)
  /-- Behind the value of a member. -/
  | objectRest (members : List (String × Json))
  /-- Behind a key. -/
  | colon (before : List (String × Json)) (key : String)
  /-- Behind the whole document. -/
  | done (value : Json)

/-- What is being read. -/
inductive Phase
  | spot (s : Spot)
  /-- A constant, of which a letter and then some more are missing. -/
  | word (letter : Char) (rest : List Char) (word : String) (value : Json)
  | body (b : Body)
  | numeral (n : Numeral)

/-- What has been read of a document. -/
structure Reader where
  stack : List Frame
  phase : Phase

/-- Why a character was refused, and whether it counts as read. -/
structure Refusal where
  cause : Cause
  taken : Bool

namespace Reader

/-- Nothing has been read. -/
def start : Reader := ⟨[], .spot .value⟩

/-- Between two tokens, with these containers open. -/
def between (p : List Frame × Spot) : Reader :=
  ⟨p.1, .spot p.2⟩

/-- A value is complete: hand it to the innermost container. -/
def settle (stack : List Frame) (v : Json) : Except Cause (List Frame × Spot) :=
  match stack with
  | [] => .ok ([], .done v)
  | .item before :: outer => .ok (outer, .arrayRest (v :: before))
  | .key before :: outer =>
      match v with
      | .string k => .ok (outer, .colon before k)
      | _ => .error (.keyNotText v)
  | .member before k :: outer => .ok (outer, .objectRest (Association.put before k v))

/-- Refuse a character that counts as read. -/
def refuse (cause : Cause) : Except Refusal α :=
  .error ⟨cause, true⟩

/-- Refuse a character and leave it unread. -/
def leave (cause : Cause) : Except Refusal α :=
  .error ⟨cause, false⟩

/-- A value was completed by a character, which counts as read whatever comes of it. -/
def complete (stack : List Frame) (v : Json) : Except Refusal Reader :=
  match settle stack v with
  | .ok p => .ok (between p)
  | .error cause => refuse cause

/-- The first character of a value. -/
def begin (stack : List Frame) (c : Char) : Except Refusal Reader :=
  match c with
  | '"' => .ok ⟨stack, .body .empty⟩
  | '[' => .ok ⟨stack, .spot .arrayOpen⟩
  | '{' => .ok ⟨stack, .spot .objectOpen⟩
  | 't' => .ok ⟨stack, .word 'r' ['u', 'e'] "true" (.bool true)⟩
  | 'f' => .ok ⟨stack, .word 'a' ['l', 's', 'e'] "false" (.bool false)⟩
  | 'n' => .ok ⟨stack, .word 'u' ['l', 'l'] "null" .null⟩
  | '-' => .ok ⟨stack, .numeral .minus⟩
  | _ => if c.isDigit then .ok ⟨stack, .numeral (.digit c)⟩ else leave (.noValue c)

/-- A character between two tokens. -/
def token (stack : List Frame) (s : Spot) (c : Char) : Except Refusal Reader :=
  if isBlank c then .ok ⟨stack, .spot s⟩
  else
    match s with
    | .value => begin stack c
    | .arrayOpen => if c = ']' then complete stack (.array []) else begin (.item [] :: stack) c
    | .objectOpen => if c = '}' then complete stack (.object []) else begin (.key [] :: stack) c
    | .arrayRest items =>
        if c = ',' then .ok ⟨.item items :: stack, .spot .value⟩
        else if c = ']' then complete stack (.array items.reverse)
        else refuse (.arrayUnclosed c)
    | .objectRest members =>
        if c = ',' then .ok ⟨.key members :: stack, .spot .value⟩
        else if c = '}' then complete stack (.object members)
        else refuse (.objectUnclosed c)
    | .colon before key =>
        if c = ':' then .ok ⟨.member before key :: stack, .spot .value⟩ else refuse (.noColon c)
    | .done _ => refuse (.trailing c)

/-- One character. -/
def step (r : Reader) (c : Char) : Except Refusal Reader :=
  match r.phase with
  | .spot s => token r.stack s c
  | .word letter rest word v =>
      if c = letter then
        match rest with
        | [] => complete r.stack v
        | next :: rest => .ok ⟨r.stack, .word next rest word v⟩
      else refuse (.misspelled letter word)
  | .body b =>
      match b.next c with
      | .ok (.inl b) => .ok ⟨r.stack, .body b⟩
      | .ok (.inr s) => complete r.stack (.string s)
      | .error cause => refuse cause
  | .numeral n =>
      match n.next c with
      | .ok (some n) => .ok ⟨r.stack, .numeral n⟩
      | .ok none =>
          match settle r.stack (.number (Binary64.ofDecimal n.decimal)) with
          | .ok (stack, s) => token stack s c
          | .error cause => leave cause
      | .error cause => leave cause

/-- The characters of a text, beginning at a position. -/
def run (p : Text.Position) (r : Reader) : List Char → Except ReadError Reader
  | [] => .ok r
  | c :: rest =>
      match r.step c with
      | .ok r => run (p.advance c) r rest
      | .error refusal =>
          .error ⟨if refusal.taken then p.advance c else p, refusal.cause⟩

/-- The end of the text. -/
def finish (r : Reader) : Except Cause Json :=
  match r.phase with
  | .spot (.done v) => .ok v
  | .numeral n =>
      match n.close with
      | .error cause => .error cause
      | .ok x =>
          match settle r.stack (.number x) with
          | .ok (_, .done v) => .ok v
          | .ok _ => .error .unexpectedEnd
          | .error cause => .error cause
  | _ => .error .unexpectedEnd

theorem run_append (p : Text.Position) (r : Reader) (a b : List Char) :
    run p r (a ++ b) =
      match run p r a with
      | .ok s => run (a.foldl Text.Position.advance p) s b
      | .error e => .error e := by
  induction a generalizing p r with
  | nil => rfl
  | cons c a ih =>
      simp only [List.cons_append, run, List.foldl_cons]
      cases r.step c with
      | ok s => exact ih (p.advance c) s
      | error e => rfl

end Reader

/-- Read a document. -/
def parse (text : String) : Except ReadError Json :=
  match Reader.start.run .start text.toList with
  | .error e => .error e
  | .ok r =>
      match r.finish with
      | .ok v => .ok v
      | .error cause => .error ⟨.after text.toList, cause⟩

end StatusCodes.Json
