import FantasyConsole.Journal.Level
import FantasyConsole.Journal.Topic
import FantasyConsole.Text.Pattern.Weight

/-!
# Filters of messages

A filter has a limit of detail for each topic, and may have a pattern that occurs in
every message shown. Limits come from rules: a rule is for the topics whose names
begin with its own, and of several the one with the longest name decides.
-/
namespace FantasyConsole

/-- A limit for the topics whose names begin with `name`, or for all. -/
structure Rule where
  name : Option String
  limit : Option Level
  deriving DecidableEq, Repr

namespace Rule

def covers (r : Rule) (t : Topic) : Bool := (r.name.getD "").toList.isPrefixOf t.name.toList

def size (r : Rule) : Nat := (r.name.getD "").utf8ByteSize

/-- Add a rule; it takes the place of one with its name. -/
def insert (rs : List Rule) (r : Rule) : List Rule :=
  if rs.any (·.name = r.name) then rs.map fun s => if s.name = r.name then r else s else rs ++ [r]

/-- Of the rules for a topic, the last of those with the longest name. -/
def governing (rs : List Rule) (t : Topic) : Option Rule :=
  rs.foldl (fun best r => if r.covers t && best.all (·.size ≤ r.size) then some r else best) none

end Rule

/-- Parts of a filter's text that are passed over. -/
inductive Complaint where
  | tooManySlashes (text : String)
  | badRule (text : String)
  | badPattern (text : String) (refusal : Text.Pattern.Refusal)
  deriving DecidableEq, Repr

def Complaint.message (c : Complaint) : String :=
  let reason :=
    match c with
    | .tooManySlashes text => "invalid logging spec '" ++ text ++ "' (too many '/'s)"
    | .badRule text => "invalid logging spec '" ++ text ++ "'"
    | .badPattern text refusal => "invalid regex filter - " ++ refusal.report text
  "warning: " ++ reason ++ ", ignoring it"

/-- A rule is a limit, a name, or a name and a limit with an equals sign between them. A name alone
shows all levels. -/
def Rule.ofString (s : String) : Except Complaint Rule :=
  match s.splitOn "=" with
  | [a] =>
    match Level.limit? a with
    | some limit => .ok ⟨none, limit⟩
    | none => .ok ⟨some a, some .trace⟩
  | [a, b] =>
    let b := Text.trimmed b
    if b = "" then .ok ⟨some a, some .trace⟩
    else
      match Level.limit? b with
      | some limit => .ok ⟨some a, limit⟩
      | none => .error (.badRule b)
  | _ => .error (.badRule s)

/-- How many levels each topic shows, and the pattern of all messages. -/
structure LogFilter where
  widths : Vector Nat 12
  pattern : Option Text.Pattern

namespace LogFilter

/-- The filter of some rules; without any rule errors are shown. -/
def ofRules (rules : List Rule) (pattern : Option Text.Pattern) : LogFilter :=
  let rules := if rules.isEmpty then [⟨none, some .error⟩] else rules
  ⟨Topic.all.map fun t => Level.shownBy ((Rule.governing rules t).bind (·.limit)), pattern⟩

def upTo (limit : Option Level) : LogFilter := ofRules [⟨none, limit⟩] none

/-- Whether messages of a level are shown for a topic. -/
@[inline] def shows (f : LogFilter) (t : Topic) (l : Level) : Bool :=
  l.detail < getElem f.widths t.index.val t.index.isLt

def fits (f : LogFilter) (message : String) : Bool := f.pattern.all (·.occursIn message)

/-- Read rules with commas between them, and a pattern after a slash. -/
def read (text : String) : LogFilter × List Complaint :=
  match text.splitOn "/" with
  | _ :: _ :: _ :: _ => (ofRules [] none, [.tooManySlashes text])
  | parts =>
    let items := (((parts.headD "").splitOn ",").map Text.trimmed).filter (· != "")
    let (rules, complaints) := items.foldl (fun (rules, complaints) item =>
      match Rule.ofString item with
      | .ok r => (Rule.insert rules r, complaints)
      | .error c => (rules, complaints ++ [c])) ([], [])
    match parts[1]? with
    | none => (ofRules rules none, complaints)
    | some text =>
      match Text.Pattern.ofString text with
      | .ok p => (ofRules rules (some p), complaints)
      | .error e => (ofRules rules none, complaints ++ [.badPattern text e])

end LogFilter

end FantasyConsole
