import StatusCodes.Directive
import StatusCodes.Record
import StatusCodes.Span

/-!
# Filters

A filter says which records are written. It is a limit on their level, or a list of directives
from the environment. A single directive already takes the place of the limit.

Directives that do not depend on spans decide on each record by itself. Of those that apply to a
record the most specific one decides, and where none applies nothing is written. Directives for
spans lift the log inside the spans they name.

A filter is not asked about every span. It gives a ceiling, the finest level that it may ever let
through, and it says beforehand what it makes of the place where spans are entered: that it takes
all of them, or none, or wants to be asked each time.
-/

namespace StatusCodes

/-- What is said of a place in the program before anything happens there. -/
inductive Interest
  | never
  | sometimes
  | always
  deriving DecidableEq, Repr

namespace Interest

/-- The interest that two have together. -/
def both (a b : Interest) : Interest :=
  if a = b then a else .sometimes

/-- The interest that several have together. Nobody has none. -/
def together : List Interest → Interest
  | [] => .never
  | a :: rest => rest.foldl both a

end Interest

/-- Whether the directive is for a record: for the part of the program that made it, and for the
fields it has. -/
def Directive.appliesTo (d : Directive) (r : Record) : Bool :=
  d.covers r.target && d.field?.all fun f => r.fieldNames.contains (String.ofList f.name)

/-- Whether the directive is for our spans by their name. Spans have no fields. -/
def Directive.namesSpan (d : Directive) : Bool :=
  d.span? = some Span.name.toList && d.field?.isNone && d.covers Span.target

/-- Which records are written. -/
inductive Filter
  | upTo (limit : Level)
  | directed (directives : List Directive)
  deriving DecidableEq, Repr

namespace Filter

/-- The directives of an environment, or a limit if there are none. -/
def ofEnvironment (limit : Level) (text : String) : Filter :=
  match Directive.ofEnvironment text with
  | [] => .upTo limit
  | ds => .directed ds

/-- Whether a record is written, wherever it is made. -/
def admits (f : Filter) (r : Record) : Bool :=
  match f with
  | .upTo limit => r.level ≤ limit
  | .directed ds =>
      (Directive.deciding? (ds.filter fun d => d.isPlain && d.appliesTo r)).any (·.allows r.level)

/-- The directives of a filter. -/
def directives : Filter → List Directive
  | .upTo _ => []
  | .directed ds => ds

/-- The directives that name our spans. -/
def naming (f : Filter) : List Directive :=
  Directive.settled (f.directives.filter Directive.namesSpan)

/-- Whether spans are let through like records, whatever fields are asked for. -/
def letsSpansThrough : Filter → Bool
  | .upTo limit => Span.level ≤ limit
  | .directed ds =>
      (Directive.deciding? (ds.filter fun d => d.isPlain && d.covers Span.target)).any
        (·.allows Span.level)

/-- The finest level that may be let through. The values of fields are not known in advance, so a
directive that asks for one may let every level through. -/
def ceiling? : Filter → Option Level
  | .upTo limit => some limit
  | .directed ds =>
      if ds.any Directive.asksForValue then some .trace
      else Level.finest (ds.map Directive.limit?)

/-- What is said of spans beforehand. -/
def interest (f : Filter) : Interest :=
  if !f.naming.isEmpty || f.letsSpansThrough then .always
  else if f.directives.any Directive.isScoped then .sometimes
  else .never

/-- What is said of a span when it is entered. That directives name spans counts only if the level of
spans is let through by some directive of their kind. A span that is entered inside one that lifts
the log to this level is such a span itself. -/
def admitsSpan (f : Filter) : Bool :=
  f.letsSpansThrough ||
    !f.naming.isEmpty && f.directives.any fun d => d.isScoped && d.allows Span.level

/-- What becomes of a span that the log takes. A filter that is not asked shows it. A span that
directives name lifts the log. -/
def view (f : Filter) (asked : Bool) : Span.View :=
  if asked && !f.admitsSpan then .hidden
  else .shown (Level.finest (f.naming.map Directive.limit?))

@[simp] theorem ofEnvironment_empty (limit : Level) : ofEnvironment limit "" = .upTo limit := rfl

theorem admits_upTo (limit : Level) (r : Record) :
    (upTo limit).admits r = decide (r.level ≤ limit) := rfl

end Filter

end StatusCodes
