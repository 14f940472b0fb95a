import Crosscheck.Process.Opening
import Crosscheck.Script.Expansion

/-!
# Redirections

While a command runs its descriptors may lead elsewhere. What its redirections say is
expanded first and then done one after another. The descriptors lead back afterwards, unless
they are redirected for good.
-/

namespace Crosscheck.Script

/-- A redirection whose words are expanded. -/
inductive Target where
  | file (descriptor : Nat) (mode : OpenMode) (forced : Bool) (path : List Char)
  /-- A descriptor becomes equal to another one, or leads nowhere. -/
  | duplicate (descriptor : Nat) (source : Option Nat)
  | document (descriptor : Nat) (number : Nat)
  deriving DecidableEq, Repr

/-- The descriptor that is redirected. -/
def Target.descriptor : Target → Nat
  | .file descriptor .. => descriptor
  | .duplicate descriptor _ => descriptor
  | .document descriptor _ => descriptor

namespace Expander

/-- Expand what redirections say. -/
def targets (expander : Expander) : List Redirection → Shell (List Target)
  | [] => return []
  | .file descriptor mode forced path :: others => do
    let path ← expander.text path
    return .file descriptor mode forced path :: (← expander.targets others)
  | .duplicate descriptor source :: others => do
    let text ← expander.text source
    let source ←
      match text with
      | ['-'] => pure none
      | [digit] =>
        if digit.isDigit then pure (some (digit.toNat - 48))
        else Shell.giveUp "Syntax error: Bad fd number".toList
      | _ => Shell.giveUp "Syntax error: Bad fd number".toList
    return .duplicate descriptor source :: (← expander.targets others)
  | .document descriptor number :: others =>
    return .document descriptor number :: (← expander.targets others)

end Expander

namespace Shell

/-- The wording of why a file is not opened. -/
def openingFault (mode : OpenMode) (path : List Char) (error : FileError) : List Char :=
  let isMissing := error = .notFound ∨ error = .notDirectory
  let (action, missing) :=
    if mode == .read then ("open", "No such file") else ("create", "Directory nonexistent")
  ("cannot " ++ action ++ " ").toList ++ path ++
    (": " ++ if isMissing then missing else error.reason).toList

/-- Whether a file must not be written anew. -/
def isProtected (path : List Char) : Shell Bool := do
  let tree ← Activity.look
  return tree.hasFile (← get).directory (Text.pathOf path)

/-- Open a file. -/
def openPath (mode : OpenMode) (forced : Bool) (path : List Char) : Shell Handle := do
  let state ← get
  if mode == .write && !forced && state.has 'C' && (← isProtected path) then
    giveUp (openingFault mode path .exists)
  match ← Activity.openPath state.directory state.descriptors mode path with
  | .ok handle => return handle
  | .error error => giveUp (openingFault mode path error)

/-- Open a text for reading. What a pipe does not hold is written by a process that does
nothing else. -/
def openText (text : List Char) : Shell Handle := do
  let (reader, writer) ← Activity.openPipe
  let octets := Text.toOctets text
  if octets.length ≤ 4096 then discard (Activity.write writer octets)
  else
    discard (Activity.fork fun _ =>
      .release [reader] fun () => .write writer octets fun _ => .exit (.code 0))
  Activity.release [writer]
  return reader

/-- Note where a descriptor leads, to be restored later, and let it lead elsewhere. -/
def lead (descriptor : Nat) (handle : Option Handle) : Shell Unit :=
  changeDescriptors fun state =>
    let kept :=
      match state.kept with
      | saved :: others =>
        (if (saved.lookup descriptor).isSome then saved
          else (descriptor, state.descriptors.lookup descriptor) :: saved) :: others
      | [] => []
    { state with kept }.connect descriptor handle

/-- Do what redirections say. -/
def redirectAll (expander : Expander) : List Target → Shell Unit
  | [] => pure ()
  | target :: others => do
    match target with
    | .file descriptor mode forced path =>
      lead descriptor (some (← openPath mode forced path))
    | .duplicate descriptor none => lead descriptor none
    | .duplicate descriptor (some source) =>
      match (← get).descriptors.lookup source with
      | some handle => lead descriptor (some handle)
      | none =>
        unless source = descriptor do
          giveUp (Text.digits source ++ ": Bad file descriptor".toList)
    | .document descriptor number =>
      let text ← expander.document ((← get).documents[number]?.getD [])
      lead descriptor (some (← openText text))
    redirectAll expander others

/-- Let the descriptors that were redirected of late lead back. -/
def restore : Shell Unit :=
  changeDescriptors fun state =>
    match state.kept with
    | [] => state
    | saved :: kept =>
      saved.foldl (fun state (descriptor, handle) => state.connect descriptor handle)
        { state with kept }

/-- Let the descriptors that were redirected of late never lead back. -/
def keepRedirected : Shell Unit :=
  changeDescriptors fun state => { state with kept := state.kept.drop 1 }

/-- Redirect descriptors up to a later return; the answer tells whether that was possible. A
mistake is only reported. -/
def redirect (expander : Expander) (targets : List Target) : Shell Bool := do
  modify fun state => { state with kept := [] :: state.kept }
  tryCatch (do redirectAll expander targets; return true) fun departure =>
    match departure with
    | .failure => return false
    | departure => throw departure

end Shell
end Crosscheck.Script
