import StreamingChat.Log.Directive

/-!
Which events a log takes. Of the rules that apply to an event the one that asks for most decides.
Directives that ask for a span, or for the values of fields, become known only within spans; there
are none here, so they let nothing through, but they are part of what the filter says.
-/

namespace StreamingChat.Log

/-- A level for the events of a target that have certain fields. -/
structure Rule where
  target : Option String := none
  fields : List String := []
  level : Level
  deriving DecidableEq, Repr

namespace Rule

def ofDirective? (d : Directive) : Option Rule :=
  if d.span.isSome || d.fields.any (·.operand.isSome) then none
  else some { target := d.target, fields := d.fields.map (·.name), level := d.level }

def text (r : Rule) : String :=
  Directive.levelText r.target (Directive.conditionText none r.fields) r.level

/-- Longer targets come first, then more fields, then what is later in the alphabet. -/
def precedence (a b : Rule) : Ordering :=
  let size := fun r : Rule => r.target.map String.utf8ByteSize
  Ordering.swap <|
    (compare (size a) (size b)).then <|
      (compare a.fields.length b.fields.length).then <|
        (compare a.target b.target).then (compare a.fields b.fields)

/-- Whether a rule has a say about an event. -/
def appliesTo (r : Rule) (target : String) (fields : List String) : Bool :=
  (r.target.all fun start => Text.startsWith start.toList target.toList) &&
    r.fields.all fields.contains

end Rule

/-- Rules and conditional directives, each in order of precedence. -/
structure Filter where
  rules : List Rule
  conditional : List Directive := []

namespace Filter

/-- Puts an item in its place; one of the same place is replaced. -/
def place {α : Type} (order : α → α → Ordering) (x : α) : List α → List α
  | [] => [x]
  | y :: rest =>
    match order x y with
    | .lt => x :: y :: rest
    | .eq => x :: rest
    | .gt => y :: place order x rest

/-- Only errors pass. -/
def errorsOnly : Filter where
  rules := [{ level := .error }]

/-- Sorts directives; a filter without any lets only errors through. -/
def ofDirectives (directives : List Directive) : Filter :=
  let isConditional := fun d : Directive => d.span.isSome || !d.fields.isEmpty
  let conditional := directives.filter isConditional
  let plain := directives.filter (!isConditional ·)
  if directives.isEmpty then errorsOnly
  else
    { rules := ((plain ++ conditional).filterMap Rule.ofDirective?).foldl
        (fun rules r => place Rule.precedence r rules) []
      conditional := conditional.foldl
        (fun directives d => place Directive.precedence d directives) [] }

/-- A filter is written as directives with commas between them; there may be nothing between two
commas. -/
def ofText (text : String) : Except Directive.Fault Filter := do
  let pieces := (Text.split ',' text).filter (!·.isEmpty)
  return ofDirectives (← pieces.mapM Directive.ofText)

/-- The rules in their order and then the conditional directives. -/
def text (f : Filter) : String :=
  String.intercalate "," (f.rules.map Rule.text ++ f.conditional.map Directive.text)

/-- The first rule that applies decides. -/
def allows (f : Filter) (target : String) (fields : List String) (level : Level) : Bool :=
  match f.rules.find? (·.appliesTo target fields) with
  | some r => level.rank ≤ r.level.rank
  | none => false

/-- The filter without any wish. -/
def standard : Filter where
  rules := [{ level := .info }]

/-- The first of some named texts that is a filter, and its name. Nothing can be selected if one
of the texts tried would have to be cut inside a character. -/
def select? : List (String × Option String) → Option (String × Filter)
  | [] => some ("default", standard)
  | (_, none) :: rest => select? rest
  | (name, some text) :: rest =>
    match ofText text with
    | .ok f => some (name, f)
    | .error .malformed => select? rest
    | .error .torn => none

theorem place_ne_nil {α : Type} (order : α → α → Ordering) (x : α) (l : List α) :
    place order x l ≠ [] := by
  cases l with
  | nil => simp [place]
  | cons y rest =>
    unfold place
    split <;> simp

end Filter

end StreamingChat.Log
