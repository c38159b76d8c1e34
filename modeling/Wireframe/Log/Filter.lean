import Wireframe.Log.Report
import Wireframe.Pattern
import Wireframe.Text.Blank

/-!
Which log records are shown. A filter is written as directives between commas,
each a level, a target or `target=level`, and may end in a slash and a pattern
that messages have to fit.
-/

namespace Wireframe

/-- Shows the records of targets that begin with a name, down to a level;
without a level, none. -/
structure LogDirective where
  name : Option String
  level : Option LogLevel
  deriving DecidableEq

structure LogFilter where
  directives : List LogDirective
  pattern : Option Pattern
  deriving DecidableEq

namespace LogDirective

def appliesTo (directive : LogDirective) (target : String) : Bool :=
  match directive.name with
  | none => true
  | some name => name.toList.isPrefixOf target.toList

def nameSize (directive : LogDirective) : Nat :=
  (directive.name.map String.utf8ByteSize).getD 0

def shows (directive : LogDirective) (level : LogLevel) : Bool :=
  match directive.level with
  | none => false
  | some limit => level.rank ≤ limit.rank

/-- A level by its name in any case; `off` stands for no level at all. -/
def levelOfText? (text : List Char) : Option (Option LogLevel) :=
  let upper := String.ofList (text.map Char.toUpper)
  if upper = "OFF" then some none
  else (LogLevel.all.find? fun level => level.name = upper).map some

def ofText (text : List Char) : Except String LogDirective :=
  match text.splitOn '=' with
  | [part] =>
      match levelOfText? part with
      | some level => .ok ⟨none, level⟩
      | none => .ok ⟨some (String.ofList part), some .trace⟩
  | [name, level] =>
      if Text.trim level = [] then
        .ok ⟨some (String.ofList name), some .trace⟩
      else
        match levelOfText? (Text.trim level) with
        | some level => .ok ⟨some (String.ofList name), level⟩
        | none => .error s!"invalid logging spec '{String.ofList (Text.trim level)}'"
  | _ => .error s!"invalid logging spec '{String.ofList text}'"

end LogDirective

namespace LogFilter

/-- A later directive takes the place of an earlier one of the same name. -/
def addDirective (directives : List LogDirective) (directive : LogDirective) :
    List LogDirective :=
  if directives.any fun other => other.name = directive.name then
    directives.map fun other => if other.name = directive.name then directive else other
  else
    directives ++ [directive]

def readDirectives :
    List (List Char) → List LogDirective → List LogDirective × List String
  | [], directives => (directives, [])
  | text :: texts, directives =>
      match LogDirective.ofText text with
      | .ok directive => readDirectives texts (addDirective directives directive)
      | .error problem =>
          let (directives, problems) := readDirectives texts directives
          (directives, problem :: problems)

/-- The directives between commas, and what is wrong with those that are left out. -/
def directivesOf (spec : List Char) : List LogDirective × List String :=
  readDirectives (((spec.splitOn ',').map Text.trim).filter fun part => !part.isEmpty) []

/-- A pattern with something wrong in it is left out. -/
def patternOf (text : List Char) : Option Pattern × List String :=
  match Pattern.ofText (String.ofList text) with
  | .ok pattern => (some pattern, [])
  | .error problem => (none, ["invalid regex filter - " ++ problem])

def ofText (text : String) : LogFilter × List String :=
  match text.toList.splitOn '/' with
  | [] => (⟨[], none⟩, [])
  | [spec] =>
      let (directives, problems) := directivesOf spec
      (⟨directives, none⟩, problems)
  | [spec, pattern] =>
      let (directives, problems) := directivesOf spec
      let (pattern, others) := patternOf pattern
      (⟨directives, pattern⟩, problems ++ others)
  | _ => (⟨[], none⟩, [s!"invalid logging spec '{text}' (too many '/'s)"])

def longest : List LogDirective → Option LogDirective
  | [] => none
  | directive :: others =>
      match longest others with
      | none => some directive
      | some other =>
          if other.nameSize < directive.nameSize then some directive else some other

/-- A filter without directives shows errors only. -/
def effectiveDirectives (filter : LogFilter) : List LogDirective :=
  if filter.directives.isEmpty then [⟨none, some .error⟩] else filter.directives

def admits (filter : LogFilter) (record : LogRecord) : Bool :=
  let applying := filter.effectiveDirectives.filter fun directive =>
    directive.appliesTo record.target
  (longest applying).any (fun directive => directive.shows record.level) &&
    filter.pattern.all fun pattern => pattern.occursIn record.message

/-- Without a filter, records are shown down to the level `info`. -/
def default : LogFilter := ⟨[⟨none, some .info⟩], none⟩

def warning (problem : String) : String :=
  s!"warning: {problem}, ignoring it\n"

def ofSetting (setting : Option String) : LogFilter × List String :=
  match setting with
  | none => (default, [])
  | some text => ofText text

end LogFilter

end Wireframe
