import Reconcile.Text.Digit

/-!
# Which messages are logged

Messages have a level, from errors to traces, and come from a part of the program, their target. A
filter is a list of directives with commas between them: a level for all targets, a target for all
of its messages, or a target with a level. For a message the directive counts whose target is the
longest beginning of the message's own; of directives with one target the last one counts.
-/

namespace Reconcile.Log

/-- The levels of messages, from the few that always matter to all. -/
inductive Level where
  | off
  | error
  | warn
  | info
  | debug
  | trace
  deriving DecidableEq, Repr, Inhabited

/-- The number of a level. -/
def Level.rank : Level → Nat
  | .off => 0
  | .error => 1
  | .warn => 2
  | .info => 3
  | .debug => 4
  | .trace => 5

/-- The level that a number stands for. -/
def numberedLevel? (n : Nat) : Option Level :=
  [Level.off, .error, .warn, .info, .debug, .trace].find? fun level => level.rank = n

/-- The level of a name, in any case, or of a number. -/
def level? (text : String) : Option Level :=
  match String.ofList (text.toList.map Char.toLower) with
  | "" | "error" => some .error
  | "off" => some .off
  | "warn" => some .warn
  | "info" => some .info
  | "debug" => some .debug
  | "trace" => some .trace
  | _ => (Digit.natural? text).bind numberedLevel?

/-- What a directive says. -/
inductive Directive where
  /-- The messages of a target up to a level; the empty target is that of all messages. -/
  | upTo (target : String) (level : Level)
  /-- Something about the spans in which messages are logged. It enables none outside them. -/
  | spans
  deriving DecidableEq, Repr

/-- Whether a character may start a target. -/
def startsTarget (c : Char) : Bool :=
  c.isAlphanum || c == '-' || c == ':' || c == '_'

/-- Reads a directive. -/
def directive? (text : String) : Option Directive :=
  let chars := text.toList
  if chars.any fun c => c == '[' then some .spans
  else if !(chars.head?.any startsTarget) then none
  else
    match chars.span (· ≠ '=') with
    | (_, []) =>
      match level? text with
      | some level => some (.upTo "" level)
      | none => some (.upTo text .trace)
    | (target, _ :: []) => some (.upTo (String.ofList target) .trace)
    | (target, _ :: level) =>
      (level? (String.ofList level)).map (.upTo (String.ofList target))

/-- The directives of a filter, each read if it can be. -/
def directives (filter : String) : List (Option Directive) :=
  ((filter.splitOn ",").filter (· ≠ "")).map directive?

/-- The directives of a filter, if all can be read. -/
def strict? (filter : String) : Option (List Directive) :=
  (directives filter).mapM id

/-- The directives of a filter that can be read. -/
def lenient (filter : String) : List Directive :=
  (directives filter).filterMap id

/-- The level up to which directives let messages of a target through. Without directives these
are errors. -/
def levelFor (directives : List Directive) (target : String) : Level :=
  if directives.isEmpty then .error
  else
    let fitting := directives.filterMap fun
      | .upTo start level =>
        if start.toList.isPrefixOf target.toList then some (start, level) else none
      | .spans => none
    (fitting.foldl
      (fun best next => if best.1.length ≤ next.1.length then next else best) ("", Level.off)).2

/-- Whether messages of a target and level are logged, by the filter of the surroundings if it can
be read, else by that of the settings. -/
def shows (surroundings : Option String) (settings target : String) (level : Level) : Bool :=
  let directives := (surroundings.bind strict?).getD (lenient settings)
  level.rank ≤ (levelFor directives target).rank

end Reconcile.Log
