import MethodSig.Rejection
import MethodSig.Splitter
import MethodSig.Text.Quoted
import MethodSig.Trace

/-!
# `Log` — events and the lines they are logged as

Parsing and splitting record what they did as events. An event has a level and becomes one line of
text, with or without colours; a log shows the lines of the events that are at least as severe as its
own level.
-/

namespace MethodSig

/-- How much an event matters, most severe first. -/
inductive Level where
  | error
  | warn
  | info
  | debug
  | trace
deriving DecidableEq

namespace Level

/-- The name in capitals. -/
def name : Level → String
  | error => "ERROR"
  | warn => "WARN"
  | info => "INFO"
  | debug => "DEBUG"
  | trace => "TRACE"

/-- The name in five columns, to the right. -/
def padded (l : Level) : String := "".pushn ' ' (5 - l.name.length) ++ l.name

/-- The number of the colour that the name has on a terminal. -/
def color : Level → Nat
  | error => 31
  | warn => 33
  | info => 32
  | debug => 34
  | trace => 35

/-- Levels by how much they let through: the less severe, the more. -/
def verbosity : Level → Nat
  | error => 1
  | warn => 2
  | info => 3
  | debug => 4
  | trace => 5

/-- Whether a log at level `l` shows what happens at level `m`. -/
def shows (l m : Level) : Bool := m.verbosity ≤ l.verbosity

end Level

/-- A text as a terminal is told to show it: between the sequences that switch a rendition on and
all renditions off, or as it is. -/
def painted (colored : Bool) (rendition : Nat) (s : String) : String :=
  if colored then "\x1b[" ++ toString rendition ++ "m" ++ s ++ "\x1b[0m" else s

/-- What is worth a line in the log. -/
inductive Event where
  /-- A signature was read. -/
  | parsed (found : Signature)
  /-- A text held no signature. -/
  | rejected (why : Rejection)
  /-- A text of so many characters was cut into so many tokens at so many kinds of separators. -/
  | split (chars tokens separators : Nat)
  /-- No delimiters were given, so the configured ones are used. -/
  | defaultDelimiters
deriving DecidableEq

namespace Event

/-- How much the event matters. -/
def level : Event → Level
  | parsed _ | rejected _ | defaultDelimiters => .debug
  | split .. => .trace

/-- The part of the program that speaks. -/
def target : Event → String
  | parsed _ | rejected _ => "sigsplit::signature"
  | split .. => "sigsplit::splitter"
  | defaultDelimiters => "sigsplit"

/-- What happened, in one line. -/
def message : Event → String
  | parsed found =>
    "Parsed `" ++ found.name ++ "` with " ++ toString found.params.length ++ " argument(s)"
  | rejected why =>
    "Rejected malformed signature " ++ Text.quoted why.input ++ ": " ++ why.detail
  | split chars tokens separators =>
    "Split " ++ toString chars ++ " char(s) into " ++ toString tokens ++ " token(s) using " ++
      toString separators ++ " separator(s)"
  | defaultDelimiters => "No delimiters given, using configured defaults"

/-- The line of the log, in colours or without. The level has its own colour, and the part of the
program that speaks is faint. -/
def line (colored : Bool) (e : Event) : String :=
  painted colored e.level.color e.level.padded ++ " " ++ painted colored 2 e.target ++
    painted colored 2 ":" ++ " " ++ e.message

/-- The events that a log at `level` shows. -/
def shownAt (level : Level) (events : List Event) : List Event :=
  events.filter fun e => level.shows e.level

end Event

/-! ## Operations with their events -/

/-- `Signature.parse`, recording what came of it. -/
def Signature.parseLogged (input : String) : Traced Event (Except Rejection Signature) := do
  let answer := parse input
  match answer with
  | .ok found => Traced.record (.parsed found)
  | .error why => Traced.record (.rejected why)
  return answer

/-- `Splitter.split`, recording the counts. -/
def Splitter.splitLogged (s : Splitter) (source : String) : Traced Event (List String) := do
  let tokens := s.split source
  Traced.record (.split source.length tokens.length s.separators.size)
  return tokens

end MethodSig
