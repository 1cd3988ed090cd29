import InfoFlow.Sandbox.Pattern
import InfoFlow.Sandbox.Shell.Arithmetic
import InfoFlow.Sandbox.Shell.Session

namespace InfoFlow.Shell

open Sandbox

/-- Fields that are being put together: those that are finished, the last one, and whether a blank
    has ended it, after which another separator does not begin a field. -/
structure Fields where
  finished : List Field := []
  last : Option Field := none
  afterBlank : Bool := false

namespace Fields

def close (fields : Fields) : Fields :=
  match fields.last with
  | none => fields
  | some field => ⟨fields.finished ++ [field], none, false⟩

/-- Adds a text to the last field. -/
def add (isQuoted : Bool) (text : List Char) (fields : Fields) : Fields :=
  ⟨fields.finished, some (fields.last.getD [] ++ text.map (·, isQuoted)), false⟩

/-- Adds a text in which separators end fields. Of blanks several count as one, and none in
    front. -/
def addSplit (separators : List Char) : List Char → Fields → Fields
  | [], fields => fields
  | c :: rest, fields =>
    addSplit separators rest <|
      if !separators.contains c then fields.add false [c]
      else if c == ' ' || c == '\t' || c == '\n' then
        if fields.last.isSome then { fields.close with afterBlank := true } else fields
      else if fields.last.isSome then fields.close
      else if fields.afterBlank then { fields with afterBlank := false }
      else ⟨fields.finished ++ [[]], none, false⟩

end Fields

/-- How the values in a word are taken. -/
structure Manner where
  /-- Whether they are cut into fields. -/
  splits : Bool
  /-- Whether the text of the word is cut too, since it stands for a value. -/
  splitsText : Bool := false
deriving Repr

/-- Adds a value: quoted, or as fields, or as it is where there is to be one field. -/
def addValue (manner : Manner) (isQuoted : Bool) (value : String) (fields : Fields) :
    Action Fields := do
  if manner.splits && !isQuoted then
    return fields.addSplit (← get).separators value.toList
  else if value.isEmpty && !isQuoted then return fields
  else return fields.add isQuoted value.toList

/-- Adds values as fields of their own. -/
def addEach (isQuoted : Bool) : List String → Fields → Action Fields
  | [], fields => return fields
  | [value], fields => addValue ⟨true, false⟩ isQuoted value fields
  | value :: rest, fields => do
    addEach isQuoted rest (← addValue ⟨true, false⟩ isQuoted value fields).close

/-- The text between the arguments where all of them are one text. -/
def Session.argSeparator (session : Session) : String :=
  match session.separators with
  | [] => ""
  | c :: _ => String.singleton c

/-- The name of a parameter and its value without what a pattern takes away. -/
def treated (treatment : Treatment) (pattern : Pattern) (value : String) : String :=
  match treatment with
  | .withoutFront longest => String.ofList (Pattern.dropFront longest pattern value.toList)
  | .withoutBack longest => String.ofList (Pattern.dropBack longest pattern value.toList)
  | _ => value

/-- A word in which a leading tilde stands for the home directory. -/
def withHome (session : Session) (word : Word) : Word :=
  match word with
  | .text s false :: rest =>
    match s.toList with
    | '~' :: more =>
      if (more.isEmpty && rest.isEmpty) || more.head? == some '/' then
        match session.value? "HOME" with
        | some home => .text home true :: .text (String.ofList more) false :: rest
        | none => word
      else word
    | _ => word
  | word => word

section

variable (run : Command → Action Unit)

/-- What a script in a word writes, without the line ends after it. -/
def scriptOutput (command : Command) : Action String := do
  let written ← captured (run command)
  modify fun session => { session with outputStatus := some session.status }
  let text := ((Raw.ofBytes written).toList.filter (· != '\x00')).reverse
  return String.ofList (text.dropWhile (· == '\n')).reverse

/-- The value of an expression. It may set variables. -/
def calculated (text : String) : Action String := do
  let session ← get
  match Arithmetic.evaluate session.value? text with
  | .ok (value, assigned) =>
    assigned.forM fun (name, value) => assign name value
    return toString value
  | .error flaw => refuse (flaw.message text)

mutual

/-- Adds the fields that a word stands for. -/
def addParts : Nat → Manner → Word → Fields → Action Fields
  | 0, _, _, _ => throw (.killed 11)
  | _, _, [], fields => return fields
  | fuel + 1, manner, part :: rest, fields => do
    let fields ←
      match part with
      | .text s isQuoted =>
        if manner.splitsText && !isQuoted then
          pure (fields.addSplit (← get).separators s.toList)
        else if s.isEmpty && !isQuoted then pure fields
        else pure (fields.add isQuoted s.toList)
      | .output script isQuoted => do
        let value ← scriptOutput run script
        addValue manner isQuoted value fields
      | .arithmetic expression isQuoted => do
        let text ← oneText fuel expression
        let value ← calculated text
        addValue manner isQuoted value fields
      | .param name treatment orEmpty word isQuoted =>
        addParameter fuel manner name treatment orEmpty word isQuoted fields
    addParts fuel manner rest fields

/-- Adds the fields that a parameter stands for. -/
def addParameter : Nat → Manner → String → Treatment → Bool → Word → Bool → Fields → Action Fields
  | 0, _, _, _, _, _, _, _ => throw (.killed 11)
  | fuel + 1, manner, name, treatment, orEmpty, word, isQuoted, fields => do
    let session ← get
    let isAll := name == "@" || name == "*"
    let value : Option String :=
      if name == "@" then some (" ".intercalate session.args)
      else if name == "*" then some (session.argSeparator.intercalate session.args)
      else session.parameter? name
    let isMissing :=
      if isAll then session.args.isEmpty || (orEmpty && session.args.all (·.isEmpty))
      else value.isNone || (orEmpty && value == some "")
    let addIt (value : Option String) : Action Fields :=
      if manner.splits && (name == "@" || (name == "*" && !isQuoted)) then
        addEach isQuoted session.args fields
      else addValue manner isQuoted (value.getD "") fields
    let addWord : Action Fields :=
      addParts fuel { manner with splitsText := manner.splits } (withHome session word) fields
    let demandSet : Action Unit := do
      if value.isNone && session.has 'u' && !isAll then
        refuse (name ++ ": parameter not set")
    match treatment with
    | .faulty => refuse "Bad substitution"
    | .value =>
      demandSet
      addIt value
    | .length =>
      demandSet
      addValue manner isQuoted (toString (value.getD "").length) fields
    | .fallback => if isMissing then addWord else addIt value
    | .replacement => if isMissing then return fields else addWord
    | .assignment =>
      if !isMissing then addIt value
      else if !isName name then refuse (name ++ ": bad variable name")
      else
        let text ← oneText fuel (withHome session word)
        assign name text
        addValue manner isQuoted text fields
    | .demand =>
      if !isMissing then addIt value
      else
        let text ← oneText fuel word
        let message :=
          if !word.isEmpty then text
          else if orEmpty then "parameter not set or null"
          else "parameter not set"
        refuse (name ++ ": " ++ message)
    | treatment =>
      demandSet
      let pattern ← addParts fuel { splits := false } word {}
      let pattern := Pattern.ofField (pattern.close.finished.flatten)
      addValue manner isQuoted (treated treatment pattern (value.getD "")) fields

/-- The text that a word stands for where it is not cut. -/
def oneText : Nat → Word → Action String
  | 0, _ => throw (.killed 11)
  | fuel + 1, word => do
    let fields ← addParts fuel { splits := false } word {}
    return String.join (fields.close.finished.map Field.text)

end

/-- How deep words may be nested. -/
def wordFuel (word : Word) : Nat :=
  word.length + 5000

/-- The fields that a word stands for. -/
def expand (splits : Bool) (word : Word) : Action (List Field) := do
  let session ← get
  let fields ← addParts run (wordFuel word) { splits } (withHome session word) {}
  return fields.close.finished

/-- The text that a word stands for where it is not cut. -/
def expandText (word : Word) : Action String := do
  let fields ← expand run false word
  return String.join (fields.map Field.text)

/-- A word in which a tilde after each colon stands for the home directory too, as in the value of
    an assignment. -/
def expandValue (word : Word) : Action String := do
  match word with
  | .text s false :: rest =>
    let session ← get
    let parts := Raw.parts (· == ':') s
    let parts := parts.mapIdx fun n part =>
      let isLast := n + 1 == parts.length
      let found := withHome session (.text part false :: if isLast then rest else [])
      let found := if isLast then found.take (found.length - rest.length) else found
      (if n == 0 then [] else [Part.text ":" false]) ++ found
    expandText run (parts.flatten ++ rest)
  | word => expandText run word

/-- The pattern that a word stands for. -/
def expandPattern (word : Word) : Action Pattern := do
  return Pattern.ofField (← expand run false word).flatten

/-- The parts of a pattern between its slashes. -/
def steps (held : Field) : Field → List Field
  | [] => [held.reverse]
  | (c, isQuoted) :: rest =>
    if c == '/' then held.reverse :: steps [] rest else steps ((c, isQuoted) :: held) rest

/-- The paths that steps lead to from a path that ends in a slash, or is empty. -/
def paths (machine : Machine) : String → List Field → List String
  | base, [] => if machine.leadsToNode base then [base] else []
  | base, step :: rest =>
    let next (name : String) : String := base ++ name ++ if rest.isEmpty then "" else "/"
    if Pattern.isOpen step then
      let place := machine.tree.find machine.workDir (Raw.toText (if base.isEmpty then "." else base))
      match place with
      | .ok (place, .directory _) =>
        let showsHidden := step.head?.map Prod.fst == some '.'
        let names := (machine.tree.names place).map Raw.ofText
        let names := if showsHidden then ["." , ".."] ++ names else names
        let pattern := Pattern.ofField step
        names.flatMap fun name =>
          if (name.toList.head? == some '.' && !showsHidden) ||
            !Pattern.isMatch pattern name.toList then []
          else if !rest.isEmpty && !machine.leadsToDirectory (base ++ name) then []
          else paths machine (next name) rest
      | _ => []
    else
      let name := Field.text step
      if rest.isEmpty && name.isEmpty then (if machine.leadsToNode base then [base] else [])
      else if rest.isEmpty then (if machine.leadsToNode (base ++ name) then [base ++ name] else [])
      else paths machine (next name) rest

/-- The texts of a field: the files that it matches, or itself if there are none. -/
def matchedPaths (session : Session) (field : Field) : List String :=
  if session.has 'f' || !Pattern.isOpen field then [field.text]
  else
    match paths session.machine "" (steps [] field) with
    | [] => [field.text]
    | found => found.mergeSort fun a b => (compare a b).isLE

/-- The texts that words stand for. -/
def expandAll (words : List Word) : Action (List String) :=
  words.foldlM (fun texts word => do
    let fields ← expand run true word
    let session ← get
    return texts ++ fields.flatMap (matchedPaths session)) []

end

end InfoFlow.Shell
