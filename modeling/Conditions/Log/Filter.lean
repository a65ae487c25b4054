import Conditions.Log.Event
import Conditions.Decimal
import Conditions.Pattern.Reader
import Conditions.Text.Characters

set_option autoImplicit false

/-!
# Which events are shown

A filter is a list of rules, each a level that some events have to reach. A rule is for all targets
that start with its own and may demand a field besides. Of several rules for an event the most
specific one counts: the one with the longest target, then one that demands a field, and of equal
ones the last.

In text, rules stand between commas. A rule is a level, or a target, or a target and brackets, the
latter two with or without a level behind `=`; without one all events are shown. Brackets hold the
name of a span or, in braces, a field, or both; a field may have a value, which is a number or a
pattern.
-/
namespace Conditions

/-- A message is a field like those that a line shows with their names. -/
def Event.hasField (e : Event) (name : List Char) : Bool :=
  name = "message".toList || e.fields.any fun f => f.1.toList = name

inductive Filter.Demand where
  | nothing
  | field (name : List Char)
  /-- A span around the event, of some name or with some value. No event has one. -/
  | span
deriving DecidableEq

def Filter.Demand.metBy : Filter.Demand → Event → Bool
  | .nothing, _ => true
  | .field name, e => e.hasField name
  | .span, _ => false

/-- Without a target the rule is for all events; without a level it shows none. -/
structure Filter.Rule where
  target : Option (List Char)
  demand : Filter.Demand
  level : Option Level
deriving DecidableEq

structure Filter where
  rules : List Filter.Rule

namespace Filter

def Rule.covers (r : Rule) (e : Event) : Bool :=
  r.demand.metBy e &&
    match r.target with
    | none => true
    | some t => t.isPrefixOf e.target.toList

/-- How specific a rule is, to be compared lexicographically: by the size of its target, where no
target is less than any, and then by the field it demands, where no field is less than any. -/
def Rule.specificity (r : Rule) : List Nat :=
  let target := match r.target with
    | none => 0
    | some t => t.length + 1
  match r.demand with
  | .field name => target :: name.map Char.toNat
  | _ => [target]

def prefer (earlier : Option Rule) (r : Rule) : Option Rule :=
  match earlier with
  | none => some r
  | some s => if r.specificity.lex s.specificity Nat.blt then some s else some r

def ruleFor (f : Filter) (e : Event) : Option Rule :=
  (f.rules.filter fun r => r.covers e).foldl prefer none

def shows (f : Filter) (e : Event) : Bool :=
  match f.ruleFor e with
  | none => false
  | some r =>
    match r.level with
    | none => false
    | some l => e.level.rank ≤ l.rank

def ofLevel (l : Level) : Filter := ⟨[⟨none, .nothing, some l⟩]⟩

def ofVerbosity (flags : Nat) : Filter :=
  ofLevel (match flags with
    | 0 => .warn
    | 1 => .info
    | 2 => .debug
    | _ => .trace)

def number? (cs : List Char) : Option Nat :=
  let digits := match cs with
    | '+' :: digits => digits
    | _ => cs
  if digits.isEmpty || !digits.all Char.isDigit then none
  else some (digits.foldl (fun n c => 10 * n + (c.toNat - 48)) 0)

def levels : List Level := [.error, .warn, .info, .debug, .trace]

/-- A level by its rank or by its name in any case, where zero and `off` are no level. -/
def level? (cs : List Char) : Option (Option Level) :=
  match number? cs with
  | some 0 => some none
  | some n => (levels.find? fun l => l.rank = n).map some
  | none =>
    let name := cs.map Char.toUpper
    if name = "OFF".toList then some none
    else (levels.find? fun l => l.name.toList = name).map some

structure Parts where
  target : List Char
  brackets : Option (List Char × Option (List Char))
  level : Option (List Char)
deriving DecidableEq

def readInside (cs : List Char) : Option ((List Char × Option (List Char)) × List Char) :=
  let isName (c : Char) : Bool := c != ']' && c != '{'
  let name := cs.takeWhile isName
  match cs.dropWhile isName with
  | ']' :: rest => some ((name, none), rest)
  | '{' :: rest =>
    match rest.dropWhile (· != '}') with
    | '}' :: ']' :: behind => some ((name, some (rest.takeWhile (· != '}'))), behind)
    | _ => none
  | _ => none

def isRuleStart (c : Char) : Bool :=
  Text.isAlphanumeric c || c = '-' || c = ':' || c = '_' || c = '['

def parts? (cs : List Char) : Option Parts :=
  if cs.head?.any isRuleStart then
    let isTarget (c : Char) : Bool := c != '=' && c != '['
    let target := cs.takeWhile isTarget
    match cs.dropWhile isTarget with
    | '[' :: rest =>
      match readInside rest with
      | some (inside, '=' :: level) => some ⟨target, some inside, some level⟩
      | some (inside, rest) =>
        if rest.all Text.isBlank then some ⟨target, some inside, none⟩ else none
      | none => none
    | '=' :: level => some ⟨target, none, some level⟩
    | _ => some ⟨target, none, none⟩
  else none

/-- What stands in a text at the places of the parts; the last part goes on to the end. -/
def Parts.moveTo? (p : Parts) (text : List Char) : Option Parts :=
  let size := Text.byteCount p.target
  match p.brackets, p.level with
  | none, none => some ⟨text, none, none⟩
  | none, some _ => do
    return ⟨← Text.before? size text, none, some (← Text.behind? (size + 1) text)⟩
  | some (name, field), level => do
    let closing := size + 1 + Text.byteCount name
    let foundName ← Text.cut? (size + 1) (Text.byteCount name) text
    let foundField ← field.mapM fun f => Text.cut? (closing + 1) (Text.byteCount f) text
    let behind := match field with
      | none => closing + 1
      | some f => closing + 1 + Text.byteCount f + 2
    let foundLevel ← level.mapM fun _ => Text.behind? (behind + 1) text
    return ⟨← Text.before? size text, some (foundName, foundField), foundLevel⟩

def isValue (cs : List Char) : Bool :=
  Decimal.isNumeral cs || Pattern.isPattern cs

/-- The value behind the name of a field; a second `=` ends it. -/
def value? (field : List Char) : Option (List Char) :=
  match field.dropWhile (· != '=') with
  | _ :: rest => some (rest.takeWhile (· != '='))
  | [] => none

/-- A field without a value is demanded if there is no name of a span. -/
def demand? (name : List Char) (field : Option (List Char)) : Option Demand :=
  match field with
  | none => some .span
  | some [] => none
  | some field =>
    match value? field with
    | some value => if isValue value then some .span else none
    | none => if name.isEmpty then some (.field field) else some .span

def Parts.rule? (p : Parts) : Option Rule :=
  let target := if p.target.isEmpty then none else some p.target
  match p.brackets, p.level with
  | none, none =>
    match level? p.target with
    | some l => some ⟨none, .nothing, l⟩
    | none => some ⟨target, .nothing, some .trace⟩
  | brackets, text => do
    let demand ← match brackets with
      | none => some .nothing
      | some (name, field) => demand? name field
    let level ← match text with
      | none => some (some .trace)
      | some [] => some (some .trace)
      | some text => level? text
    return ⟨target, demand, level⟩

/-- The places of the parts of a rule are those that they have without the blanks before it, but
what they hold is looked up with these blanks. -/
def rule? (cs : List Char) : Option Rule := do
  let parts ← parts? (cs.dropWhile Text.isBlank)
  let moved ← parts.moveTo? cs
  moved.rule?

def splitCommas : List Char → List (List Char)
  | [] => [[]]
  | c :: cs =>
    match splitCommas cs with
    | [] => [[c]]
    | part :: parts => if c = ',' then [] :: part :: parts else (c :: part) :: parts

/-- Rules between commas, of which empty ones are skipped. Without a rule only errors are shown. -/
def ofText? (text : String) : Option Filter :=
  match (splitCommas text.toList).filter (!·.isEmpty) with
  | [] => some (ofLevel .error)
  | parts => (parts.mapM rule?).map (⟨·⟩)

end Filter

end Conditions
