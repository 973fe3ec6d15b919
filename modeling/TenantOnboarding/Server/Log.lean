import TenantOnboarding.Text.Alphanumeric
import TenantOnboarding.Text.Numeral

/-!
# Log messages

A message has a level and comes from a part of the program. A filter is a text of rules with commas
between them: a level for all parts, or a part with a level. The rule with the longest part that a
message comes from decides; without rules only errors pass.
-/

namespace TenantOnboarding.Server

/-- How grave a message is. -/
inductive Level where
  | error
  | warn
  | info
  | debug
  | trace
  deriving Repr, DecidableEq

namespace Level

/-- The name of a level in messages. -/
def name : Level → String
  | error => "ERROR"
  | warn => "WARN"
  | info => "INFO"
  | debug => "DEBUG"
  | trace => "TRACE"

/-- How many levels are as grave or graver. -/
def rank : Level → Nat
  | error => 1
  | warn => 2
  | info => 3
  | debug => 4
  | trace => 5

end Level

/-- A message. -/
structure Message where
  level : Level
  /-- The part of the program that it comes from. -/
  part : String
  text : String
  deriving Repr, DecidableEq

/-- A rule: messages from a part pass up to a rank. The empty part is all parts. -/
structure FilterRule where
  part : List Char
  rank : Nat
  deriving Repr, DecidableEq

namespace FilterRule

/-- The rank up to which messages pass at a level, which is named or numbered. -/
def rank? (cs : List Char) : Option Nat :=
  let names := [("off", 0), ("error", 1), ("warn", 2), ("info", 3), ("debug", 4), ("trace", 5)]
  match names.lookup (String.ofList (cs.map Char.toLower)) with
  | some n => some n
  | none => Text.unsigned? 5 (String.ofList cs)

/-- Whether a character may begin a rule. A bracket begins a part that no message comes from. -/
def mayBegin (c : Char) : Bool :=
  Text.isAlphanumeric c || "-:_[".toList.contains c

/-- The rule that a text describes. A part without a level lets all its messages pass. -/
def ofText? (cs : List Char) : Option FilterRule :=
  if !cs.head?.any mayBegin then none
  else match cs.splitOn '=' with
    | [word] =>
      match rank? word with
      | some rank => some ⟨[], rank⟩
      | none => some ⟨word, 5⟩
    | [part, []] => some ⟨part, 5⟩
    | [part, level] => (rank? level).map (⟨part, ·⟩)
    | _ => none

end FilterRule

/-- A filter: its rules, in order. -/
structure Filter where
  rules : List FilterRule
  deriving Repr, DecidableEq

namespace Filter

/-- The filter that a text describes. Rules that cannot be read are passed over. -/
def ofText (s : String) : Filter :=
  let words := (s.toList.splitOn ',').filter (!·.isEmpty)
  match words.filterMap FilterRule.ofText? with
  | [] => ⟨[⟨[], 1⟩]⟩
  | rules => ⟨rules⟩

/-- The better of two rules for a message: the one with the longer part, and of equals the later. -/
def better (best : Option FilterRule) (rule : FilterRule) : Option FilterRule :=
  match best with
  | none => some rule
  | some r => if r.part.length ≤ rule.part.length then some rule else best

/-- Whether a message passes. -/
def passes (f : Filter) (m : Message) : Bool :=
  let fitting := f.rules.filter fun rule => rule.part.isPrefixOf m.part.toList
  match fitting.foldl better none with
  | some rule => m.level.rank ≤ rule.rank
  | none => false

end Filter

end TenantOnboarding.Server
