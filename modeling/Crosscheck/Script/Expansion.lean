import Crosscheck.Script.Arithmetic
import Crosscheck.Script.Pathname
import Crosscheck.Script.Shell
import Crosscheck.Script.Source

/-!
# Expansion

The parts of a word are replaced by what they stand for, and what comes from outside
quotes is then cut into fields, which may be patterns of paths. Until that is done each
character keeps where it came from.
-/

namespace Crosscheck.Script

/-- A character of an expanded word, or what holds a place between characters. -/
inductive Glyph where
  /-- Whether a character was quoted tells patterns from texts; only what was replaced
  outside quotes is cut. -/
  | letter (char : Char) (quoted cuts : Bool)
  /-- A quoted text without characters, which is a field nevertheless. -/
  | nothing
  /-- The place between two arguments. -/
  | boundary
  deriving DecidableEq, Repr

namespace Glyph

/-- The glyphs of a text that replaces a part. -/
def ofText (text : List Char) (quoted : Bool) : List Glyph :=
  if quoted && text.isEmpty then [.nothing] else text.map fun char => .letter char quoted (!quoted)

/-- The glyphs of several texts that are fields of their own. -/
def ofTexts (quoted : Bool) : List (List Char) → List Glyph
  | [] => []
  | [text] => ofText text quoted
  | text :: rest => ofText text quoted ++ .boundary :: ofTexts quoted rest

/-- The text of glyphs, given what separates arguments. -/
def text (separator : List Char) (glyphs : List Glyph) : List Char :=
  glyphs.flatMap fun
    | .letter char _ _ => [char]
    | .nothing => []
    | .boundary => separator

/-- The pattern that glyphs spell. -/
def pattern (glyphs : List Glyph) : List PatternItem :=
  Pattern.ofChars (glyphs.filterMap fun
    | .letter char quoted _ => some ⟨char, quoted⟩
    | .nothing => none
    | .boundary => some ⟨' ', false⟩)

/-- The glyphs of a word that replaces a part. They are cut wherever they were not
quoted. -/
def replacing (quoted : Bool) (glyphs : List Glyph) : List Glyph :=
  if quoted && glyphs.isEmpty then [.nothing]
  else
    glyphs.map fun
      | .letter char quoted _ => .letter char quoted (!quoted)
      | glyph => glyph

/-- Whether a character is a blank. -/
def isBlank (char : Char) : Bool := char == ' ' || char == '\t' || char == '\n'

/-- Cut glyphs into fields, given the field that has begun, latest first, and whether a
blank has just ended one. -/
def fieldsFrom (separators : List Char) : Option (List PatternChar) → Bool → List Glyph →
    List (List PatternChar)
  | field, _, [] => (field.map List.reverse).toList
  | field, _, .boundary :: rest =>
    (field.map List.reverse).toList ++ fieldsFrom separators none false rest
  | field, _, .nothing :: rest => fieldsFrom separators (some (field.getD [])) false rest
  | field, blank, .letter char quoted cuts :: rest =>
    if cuts && separators.contains char then
      match field with
      | some field => field.reverse :: fieldsFrom separators none (isBlank char) rest
      | none =>
        if isBlank char then fieldsFrom separators none blank rest
        else if blank then fieldsFrom separators none false rest
        else [] :: fieldsFrom separators none false rest
    else fieldsFrom separators (some (⟨char, quoted⟩ :: field.getD [])) false rest

/-- Cut glyphs into fields. -/
def fields (separators : List Char) (glyphs : List Glyph) : List (List PatternChar) :=
  fieldsFrom separators none false glyphs

end Glyph

/-! ## Home directories -/

/-- The home directory that a name after a tilde means. -/
def homeOf? (state : State) (user : List Char) : Option (List Char) :=
  if user.isEmpty then state.content? "HOME"
  else if user = "root".toList then some "/root".toList
  else none

namespace Glyph

/-- The character that stands unquoted in a script itself. -/
def plain? : Glyph → Option Char
  | .letter char false false => some char
  | _ => none

/-- Replace a tilde at the start of a word by a home directory. -/
def expandTilde (state : State) (glyphs : List Glyph) : List Glyph :=
  match glyphs with
  | first :: rest =>
    let user := (rest.takeWhile fun glyph => glyph.plain?.any (· != '/')).filterMap plain?
    let after := rest.drop user.length
    if first.plain? == some '~' && after.head?.all fun glyph => glyph.plain?.isSome then
      match homeOf? state user with
      | some home => ofText home true ++ after
      | none => glyphs
    else glyphs
  | [] => []

/-- Divide the glyphs of a value at the colons that stand in the script itself. -/
def divideAtColons : List Glyph → List (List Glyph)
  | [] => [[]]
  | glyph :: rest =>
    let parts := divideAtColons rest
    if glyph.plain? == some ':' then [] :: parts
    else (glyph :: parts.headD []) :: parts.drop 1

/-- Replace the tildes at the start of a value and after its colons. -/
def expandTildes (state : State) (glyphs : List Glyph) : List Glyph :=
  if glyphs.any fun glyph => glyph.plain? == some '~' then
    [.letter ':' false false].intercalate ((divideAtColons glyphs).map (expandTilde state))
  else glyphs

end Glyph

/-- How words are expanded, given how commands are run for their output. -/
structure Expander where
  capture : Command → Shell (List Char)

namespace Expander

/-- Whether a parameter stands for all arguments. -/
def isArguments (name : String) : Bool := name = "@" || name = "*"

/-- Whether a parameter lacks a value. All arguments together never do, but they are empty
if there is nothing in them or between them. -/
def lacks (state : State) (name : String) (quoted orEmpty : Bool) : Bool :=
  if isArguments name then
    let isJoined := quoted && name = "*" && state.separators.isEmpty
    orEmpty && state.arguments.all List.isEmpty && (isJoined || state.arguments.length < 2)
  else
    match state.value? name with
    | none => true
    | some value => orEmpty && value.isEmpty

/-- The glyphs of a parameter's value. -/
def valueGlyphs (name : String) (quoted : Bool) : Shell (List Glyph) := do
  let state ← get
  if state.has 'u' && lacks state name quoted false then
    Shell.giveUp (name ++ ": parameter not set").toList
  if name = "@" || (name = "*" && !quoted) then return Glyph.ofTexts quoted state.arguments
  else return Glyph.ofText ((state.value? name).getD []) quoted

/-- Keep what an expression has assigned. -/
def keepAssigned (assigned : Arithmetic.Assigned) : Shell Unit :=
  assigned.reverse.forM fun (name, value) => Shell.assign name (toString value).toList

/-- The first separator of fields, which stands between arguments in one text. -/
def separator : Shell (List Char) := return (← get).separators.take 1

mutual

/-- Expand one part. -/
def part (expander : Expander) : Part → Shell (List Glyph)
  | .text text quoted =>
    return if quoted && text.isEmpty then [.nothing] else text.map (.letter · quoted false)
  | .parameter name operation quoted => expander.operation name quoted operation
  | .arithmetic body quoted => do
    let text := Glyph.text (← separator) (← expander.parts body)
    let state ← get
    match Arithmetic.evaluate (fun name => (state.value? name).getD []) text with
    | .ok (value, assigned) =>
      keepAssigned assigned
      return Glyph.ofText (toString value).toList quoted
    | .error .quotientTooLarge => Shell.become (.exit (.signal 8))
    | .error fault => Shell.giveUp (fault.message text)
  | .output body quoted => do
    return Glyph.ofText (← expander.capture body) quoted

/-- Expand a parameter. -/
def operation (expander : Expander) (name : String) (quoted : Bool) :
    Operation → Shell (List Glyph)
  | .value => valueGlyphs name quoted
  | .length => do
    let state ← get
    if isArguments name then return Glyph.ofText (Text.digits state.joinedArguments.length) quoted
    if state.has 'u' && lacks state name quoted false then
      Shell.giveUp (name ++ ": parameter not set").toList
    return Glyph.ofText (Text.digits ((state.value? name).getD []).length) quoted
  | .default orEmpty word => do
    if lacks (← get) name quoted orEmpty then
      return Glyph.replacing quoted (Glyph.expandTilde (← get) (← expander.parts word))
    else valueGlyphs name quoted
  | .assign orEmpty word => do
    if lacks (← get) name quoted orEmpty then
      let value := Glyph.text (← separator) (Glyph.expandTilde (← get) (← expander.parts word))
      if !Reader.isName name.toList then
        Shell.giveUp (name ++ ": bad variable name").toList
      Shell.assign name value
    valueGlyphs name quoted
  | .alternative orEmpty word => do
    if lacks (← get) name quoted orEmpty then return Glyph.replacing quoted []
    else return Glyph.replacing quoted (Glyph.expandTilde (← get) (← expander.parts word))
  | .demand orEmpty word => do
    if lacks (← get) name quoted orEmpty then
      let message := Glyph.text (← separator) (← expander.parts word)
      let usual := if orEmpty then "parameter not set or null" else "parameter not set"
      Shell.giveUp
        (name.toList ++ ": ".toList ++ if word.isEmpty then usual.toList else message)
    else valueGlyphs name quoted
  | .trim atEnd longest word => do
    let pattern := Glyph.pattern (Glyph.expandTilde (← get) (← expander.parts word))
    let state ← get
    if state.has 'u' && lacks state name quoted false then
      Shell.giveUp (name ++ ": parameter not set").toList
    let trim (value : List Char) := Pattern.trim atEnd longest pattern value
    if name = "@" || (name = "*" && !quoted) then
      return Glyph.ofTexts quoted (state.arguments.map trim)
    return Glyph.ofText (trim ((state.value? name).getD [])) quoted
  | .unknown => Shell.giveUp "Bad substitution".toList

/-- Expand parts that stand side by side. -/
def parts (expander : Expander) : List Part → Shell (List Glyph)
  | [] => return []
  | first :: rest => do
    let glyphs ← expander.part first
    return glyphs ++ (← expander.parts rest)

end

/-- Expand a word to one text. -/
def text (expander : Expander) (word : Word) : Shell (List Char) := do
  let glyphs ← expander.parts word
  return Glyph.text (← separator) (Glyph.expandTilde (← get) glyphs)

/-- Expand the value of a variable. -/
def value (expander : Expander) (word : Word) : Shell (List Char) := do
  let glyphs ← expander.parts word
  return Glyph.text (← separator) (Glyph.expandTildes (← get) glyphs)

/-- Expand a text that stands in the script. -/
def document (expander : Expander) (body : Word) : Shell (List Char) := do
  return Glyph.text (← separator) (← expander.parts body)

/-- Expand a word to a pattern. -/
def pattern (expander : Expander) (word : Word) : Shell (List PatternItem) := do
  let glyphs ← expander.parts word
  return Glyph.pattern (Glyph.expandTilde (← get) glyphs)

/-- Expand a word to fields. -/
def fields (expander : Expander) (word : Word) : Shell (List (List Char)) := do
  let glyphs ← expander.parts word
  let state ← get
  let found := Glyph.fields state.separators (Glyph.expandTilde state glyphs)
  if state.has 'f' || !found.any Pathname.isPattern then
    return found.map fun field => field.map PatternChar.char
  else
    let tree ← Activity.look
    return found.flatMap fun field =>
      let text := field.map PatternChar.char
      if Pathname.isPattern field then
        match Pathname.matching tree state.directory field with
        | [] => [text]
        | paths => paths
      else [text]

/-- Expand words to fields. -/
def allFields (expander : Expander) : List Word → Shell (List (List Char))
  | [] => return []
  | word :: rest => do
    let found ← expander.fields word
    return found ++ (← expander.allFields rest)

end Expander
end Crosscheck.Script
