import LocalePaths.Filter.Action
import LocalePaths.Pattern.Parse
import LocalePaths.Unicode.Basic

/-!
# Events

What the library reports about its work: patterns and expressions that are compiled, paths that are
matched, and the steps of a filter decision. Every report is an `Event`; a computation that makes
reports is a `Traced` value.
-/

namespace LocalePaths

/-- A report. -/
inductive Event where
  | patternCompiled (source : Text) (nodeCount stemLength : Nat)
  | regexCompiled (pattern regex : Text)
  | patternMatch (pattern path : Text) (matched : Bool)
  | ruleAdded (path : Text) (key : Option Text) (action : FilterAction)
  | ruleEvaluate (path rulePattern : Text) (applies : Bool)
  | cacheBuilt (locale : Text) (pathCount ruleCount : Nat)
  | excludeHit (locale path : Text)
  | filterDecision (locale path : Text) (entity : Option Text) (action : FilterAction)
  | filterSummary (total errors warnings ignored : Nat)
  deriving DecidableEq, Inhabited

/-- The importance of a report. -/
inductive Level where
  | trace
  | debug
  | info
  deriving DecidableEq, Inhabited

/-- The value of a field of a report. -/
inductive FieldValue where
  | text (t : Text)
  | count (n : Nat)
  | flag (b : Bool)
  deriving DecidableEq, Inhabited

namespace Event

/-- The part of the library that makes the report. -/
def target : Event → String
  | patternCompiled .. | regexCompiled .. | patternMatch .. => "l10n::pattern"
  | _ => "l10n::filter"

/-- How important the report is: what is decided, what is prepared for it, or a single step. -/
def level : Event → Level
  | patternCompiled .. | patternMatch .. | ruleEvaluate .. => .trace
  | regexCompiled .. | ruleAdded .. | cacheBuilt .. | excludeHit .. => .debug
  | filterDecision .. | filterSummary .. => .info

/-- The name under which the report is written. -/
def name : Event → String
  | patternCompiled .. => "pattern_compiled"
  | regexCompiled .. => "regex_compiled"
  | patternMatch .. => "pattern_match"
  | ruleAdded .. => "rule_added"
  | ruleEvaluate .. => "rule_evaluate"
  | cacheBuilt .. => "cache_built"
  | excludeHit .. => "exclude_hit"
  | filterDecision .. => "filter_decision"
  | filterSummary .. => "filter_summary"

def hex (n : Nat) : Text := Nat.toDigits 16 n

/-- The code points that are written by number between quotes: controls, format characters, spaces
other than the common one, marks that combine with the character before, and private use. Each row
holds the first and the last code point and the step between them. -/
def unprintable : List (Nat × Nat × Nat) :=
  [(0x0, 0x1f, 1), (0x7f, 0xa0, 1), (0xad, 0xad, 1), (0x300, 0x36f, 1), (0x1680, 0x1680, 1),
   (0x2000, 0x200f, 1), (0x2028, 0x202f, 1), (0x205f, 0x206f, 1), (0x20d0, 0x20f0, 1),
   (0x3000, 0x3000, 1), (0xe000, 0xf8ff, 1), (0xfe00, 0xfe0f, 1), (0xfe20, 0xfe2f, 1),
   (0xfeff, 0xfeff, 1), (0xfff9, 0xfffb, 1)]

/-- A character as it is written between quotes. -/
def quotedChar (c : Char) : Text :=
  if c = '"' then ['\\', '"']
  else if c = '\\' then ['\\', '\\']
  else if c = '\n' then ['\\', 'n']
  else if c = '\r' then ['\\', 'r']
  else if c = '\t' then ['\\', 't']
  else if c = '\x00' then ['\\', '0']
  else if Unicode.inRows c.toNat unprintable then
    "\\u\x7b".toList ++ hex c.toNat ++ ['\x7d']
  else [c]

/-- A text that may be missing, as it is written in a report. -/
def quoted : Option Text → Text
  | none => "None".toList
  | some t => "Some(\"".toList ++ t.flatMap quotedChar ++ "\")".toList

/-- The fields of a report with their names, in the order in which they are written. -/
def fields : Event → List (String × FieldValue)
  | patternCompiled source nodeCount stemLength =>
    [("source", .text source), ("node_count", .count nodeCount),
      ("prefix_length", .count stemLength)]
  | regexCompiled pattern regex => [("pattern", .text pattern), ("regex", .text regex)]
  | patternMatch pattern path matched =>
    [("pattern", .text pattern), ("path", .text path), ("matched", .flag matched)]
  | ruleAdded path key action =>
    [("path", .text path), ("key", .text (quoted key)), ("action", .text action.text)]
  | ruleEvaluate path rulePattern applies =>
    [("path", .text path), ("rule_pattern", .text rulePattern), ("applies", .flag applies)]
  | cacheBuilt locale pathCount ruleCount =>
    [("locale", .text locale), ("path_count", .count pathCount), ("rule_count", .count ruleCount)]
  | excludeHit locale path => [("locale", .text locale), ("path", .text path)]
  | filterDecision locale path entity action =>
    [("locale", .text locale), ("path", .text path), ("entity", .text (quoted entity)),
      ("action", .text action.text)]
  | filterSummary total errors warnings ignored =>
    [("total", .count total), ("errors", .count errors), ("warnings", .count warnings),
      ("ignored", .count ignored)]

end Event

/-- A value together with the reports made on the way to it. -/
structure Traced (α : Type) where
  value : α
  events : List Event
  deriving Inhabited

namespace Traced

def report (e : Event) : Traced Unit := ⟨(), [e]⟩

instance : Monad Traced where
  pure a := ⟨a, []⟩
  bind t f :=
    let u := f t.value
    ⟨u.value, t.events ++ u.events⟩

instance : LawfulMonad Traced := LawfulMonad.mk' _
  (fun t => congrArg (Traced.mk t.value) (List.append_nil t.events))
  (fun _ _ => rfl)
  (fun t f g => congrArg (Traced.mk (g (f t.value).value).value) (List.append_assoc ..))

@[simp] theorem value_pure {α : Type} (a : α) : (pure a : Traced α).value = a := rfl

@[simp] theorem events_pure {α : Type} (a : α) : (pure a : Traced α).events = [] := rfl

@[simp] theorem value_bind {α β : Type} (t : Traced α) (f : α → Traced β) :
    (t >>= f).value = (f t.value).value := rfl

@[simp] theorem events_bind {α β : Type} (t : Traced α) (f : α → Traced β) :
    (t >>= f).events = t.events ++ (f t.value).events := rfl

@[simp] theorem value_map {α β : Type} (f : α → β) (t : Traced α) : (f <$> t).value = f t.value := rfl

@[simp] theorem events_map {α β : Type} (f : α → β) (t : Traced α) : (f <$> t).events = t.events :=
  List.append_nil t.events

end Traced

/-- The report that a pattern has been compiled. -/
def Event.ofPattern (source : Text) (p : Pattern) : Event :=
  .patternCompiled source p.length p.stemLength

/-- Reads a pattern and reports it. -/
def Pattern.compile (source : Text) : Traced Pattern :=
  ⟨Pattern.parse source, [.ofPattern source (Pattern.parse source)]⟩

end LocalePaths
