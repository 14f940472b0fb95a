import Crosscheck.Utility.Copy

/-!
# Copying blocks

A copy that goes block by block, may start anywhere on both sides, and tells how many blocks
there were. A block that was read only in part counts separately.
-/

namespace Crosscheck.Utility.Blocks

/-- What is copied from where to where. -/
structure Plan where
  source : Option (List Char) := none
  target : Option (List Char) := none
  inSize : Nat := 512
  outSize : Nat := 512
  /-- Whether each block is written as it was read. -/
  together : Bool := false
  count : Option Nat := none
  skip : Nat := 0
  seek : Nat := 0
  conversions : List (List Char) := []
  status : List Char := []

/-- How many blocks were complete, how many were not, and how many octets they hold. -/
structure Tally where
  full : Nat := 0
  partly : Nat := 0
  octets : Nat := 0

/-- Count a block. -/
def Tally.add (tally : Tally) (size length : Nat) : Tally :=
  if length = size then { tally with full := tally.full + 1, octets := tally.octets + length }
  else { tally with partly := tally.partly + 1, octets := tally.octets + length }

/-- How blocks are counted on both sides. -/
structure Report where
  read : Tally := {}
  written : Tally := {}

/-- Read a size: factors with units. -/
def readSize (text : List Char) : Utility Nat := do
  let factors := (Program.divide 'x' text).map fun factor =>
    match factor.getLast? with
    | some 'c' => number? factor.dropLast
    | some 'w' => (number? factor.dropLast).map (· * 2)
    | _ => amount? factor
  if factors.all Option.isSome then return (factors.filterMap id).foldl (· * ·) 1
  fail ("invalid number: ".toList ++ quoted text)

/-- Take note of an operand. -/
def readOperand (plan : Plan) (operand : List Char) : Utility Plan := do
  let name := operand.takeWhile (· != '=')
  let value := operand.drop (name.length + 1)
  match String.ofList name with
  | "if" => return { plan with source := some value }
  | "of" => return { plan with target := some value }
  | "bs" =>
    let size ← readSize value
    return { plan with inSize := size, outSize := size, together := true }
  | "ibs" => return { plan with inSize := ← readSize value }
  | "obs" => return { plan with outSize := ← readSize value }
  | "count" => return { plan with count := some (← readSize value) }
  | "skip" => return { plan with skip := ← readSize value }
  | "seek" => return { plan with seek := ← readSize value }
  | "conv" => return { plan with conversions := Program.divide ',' value }
  | "status" => return { plan with status := value }
  | "iflag" => return plan
  | "oflag" => return plan
  | _ => misuse ("unrecognized operand ".toList ++ quoted operand)

/-- Whether a conversion is asked for. -/
def Plan.converts (plan : Plan) (name : String) : Bool := plan.conversions.contains name.toList

/-- Octets after the conversions. -/
def Plan.convert (plan : Plan) (octets : List UInt8) : List UInt8 :=
  let change (map : Char → Char) : List UInt8 := Text.toOctets ((Text.ofOctets octets).map map)
  if plan.converts "ucase" then change Char.toUpper
  else if plan.converts "lcase" then change Char.toLower
  else if plan.converts "sync" then octets ++ List.replicate (plan.inSize - octets.length) 0
  else octets

/-- Read and forget a number of octets. The fuel bounds the number of blocks. -/
def skipOctets (handle : Handle) : Nat → Nat → Utility Unit
  | 0, _ => pure ()
  | _, 0 => pure ()
  | fuel + 1, count => do
    match ← Activity.readSome handle (min count 65536) with
    | .ok [] => pure ()
    | .ok octets => skipOctets handle fuel (count - octets.length)
    | .error _ => pure ()

/-- Write octets in blocks. The fuel bounds the number of blocks. -/
def writeBlocks (plan : Plan) (handle : Handle) : Nat → List UInt8 → Report → Utility Report
  | 0, _, report => return report
  | _, [], report => return report
  | fuel + 1, octets, report => do
    let block := octets.take plan.outSize
    match ← Activity.write handle block with
    | some error =>
      fail ("error writing ".toList ++ quoted ((plan.target).getD "standard output".toList) ++
        ": ".toList ++ error.reason.toList)
    | none =>
      writeBlocks plan handle fuel (octets.drop plan.outSize)
        { report with written := report.written.add plan.outSize block.length }

/-- Copy blocks, given what was read and not written yet. The fuel bounds their number. -/
def copyBlocks (plan : Plan) (source target : Handle) :
    Nat → List UInt8 → Report → Utility Report
  | 0, _, report => return report
  | fuel + 1, kept, report => do
    let isOver := plan.count.any fun count => count ≤ report.read.full + report.read.partly
    let answer ← if isOver then pure (.ok []) else Activity.readSome source plan.inSize
    match answer with
    | .error error =>
      fail ("error reading ".toList ++ quoted (plan.source.getD "standard input".toList) ++
        ": ".toList ++ error.reason.toList)
    | .ok [] => writeBlocks plan target (kept.length + 1) kept report
    | .ok octets =>
      Activity.pause blockTime
      let report := { report with read := report.read.add plan.inSize octets.length }
      let octets := plan.convert octets
      if plan.together then
        let report ← writeBlocks plan target (octets.length + 1) octets report
        copyBlocks plan source target fuel [] report
      else
        let kept := kept ++ octets
        let whole := kept.length / plan.outSize * plan.outSize
        let report ← writeBlocks plan target (kept.length + 1) (kept.take whole) report
        copyBlocks plan source target fuel (kept.drop whole) report

/-- Open the source. -/
def openSource (plan : Plan) : Utility Handle := do
  let setting ← read
  match plan.source with
  | none =>
    match setting.descriptors.lookup 0 with
    | some handle => return handle
    | none => fail "failed to open 'standard input': Bad file descriptor".toList
  | some path =>
    match ← Activity.openPath setting.directory setting.descriptors .read path with
    | .ok handle => return handle
    | .error error =>
      fail ("failed to open ".toList ++ quoted path ++ ": ".toList ++ error.reason.toList)

/-- Open the target, at the place where writing starts. -/
def openTarget (plan : Plan) : Utility Handle := do
  let setting ← read
  let start := plan.seek * plan.outSize
  match plan.target with
  | none =>
    match setting.descriptors.lookup 1 with
    | some handle => return handle
    | none => fail "failed to open 'standard output': Bad file descriptor".toList
  | some path =>
    let keeps := plan.converts "notrunc"
    let mode := if start = 0 && !keeps then OpenMode.write else .update
    match ← Activity.openPath setting.directory setting.descriptors mode path with
    | .error error =>
      fail ("failed to open ".toList ++ quoted path ++ ": ".toList ++ error.reason.toList)
    | .ok handle =>
      if 0 < start then
        discard (Activity.attempt fun tree =>
          tree.update setting.directory (Text.pathOf path) fun octets =>
            let octets := if keeps then octets else octets.take start
            octets ++ List.replicate (start - octets.length) 0)
        skipOctets handle plenty start
      return handle

/-- A number of octets in words. -/
def countText (count : Nat) : List Char :=
  Text.digits count ++ (if count = 1 then " byte" else " bytes").toList

/-- Copy blocks of octets. -/
def dd : Utility Nat := do
  let plan ← (← arguments).foldlM readOperand {}
  let source ← openSource plan
  let target ← openTarget plan
  skipOctets source plenty (plan.skip * plan.inSize)
  let report ← copyBlocks plan source target plenty [] {}
  let records (tally : Tally) (side : String) : List Char :=
    Text.digits tally.full ++ '+' :: Text.digits tally.partly ++ s!" records {side}\n".toList
  if plan.status ≠ "none".toList then
    discard (writeTo 2 (records report.read "in" ++ records report.written "out"))
    if plan.status ≠ "noxfer".toList then
      discard (writeTo 2 (countText report.written.octets ++ " copied, 0 s, Infinity B/s\n".toList))
  return 0

end Crosscheck.Utility.Blocks
