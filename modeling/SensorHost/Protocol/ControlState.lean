import SensorHost.Protocol.Frame

/-!
# The control state

Model of `protocol/control_state.py`: the structured values a session has seen in its CLI frames,
and the update by one reply. A reply is a text of lines; each line is a section that sets a few
fields, and a reply that repeats a section, or has a value that is no number, changes nothing.

Integers are texts that `int` takes, in range of 64 bits unsigned; flags are `0` and `1`; UUIDs are
what `uuid.UUID` takes. Keys are found in a line by the pattern of the source, one after the other,
and a key that comes twice raises. The update is a fold over the stripped lines that stops at the
first error, and the caller keeps the state of before in that case.

The definitions follow the functions of the source one by one; what they compute together is the
subject of `Protocol.ControlFields` and `Protocol.Composition`.
-/

namespace SensorHost.Protocol
open SensorHost.Lib

/-- `FirmwareControlState`. -/
structure FirmwareControlState where
  acquisitionState : Option Text := none
  uartBaud : Option Nat := none
  deviceUuid : Option Uuid := none
  uuidSource : Option Text := none
  sdUsed : Option Nat := none
  sdCapacity : Option Nat := none
  sdPendingFrames : Option Nat := none
  sdRetainedChunks : Option Nat := none
  sdRetainedFrames : Option Nat := none
  sdOverwrittenChunks : Option Nat := none
  sdOverwrittenFrames : Option Nat := none
  sdReady : Option Bool := none
  sdFormatRequired : Option Bool := none
  exportTarget : Option Text := none
  exportChunk : Option Nat := none
  exportFrame : Option Nat := none
  exportPhase : Option Text := none
  exportRevision : Nat := 0
  exportChunks : Option Nat := none
  exportFrames : Option Nat := none
  livestreamTarget : Option Text := none
  liveDropsIis : Option Nat := none
  liveDropsJy : Option Nat := none
  liveLastRoutedSequence : Option Nat := none
  liveLastCompletedSequence : Option Nat := none
  diagPoolFail : Option Nat := none
  diagIngressDrop : Option Nat := none
  diagNostoreDrop : Option Nat := none
  diagPoolMin : Option Nat := none
  diagIngressPeak : Option Nat := none
  diagSdStallMs : Option Nat := none
  diagCdcLive : Option Nat := none
  diagCdcCtrl : Option Nat := none
  diagCdcExport : Option Nat := none
  stopReason : Option Text := none
  otaState : Option Text := none
  otaReceived : Option Nat := none
  otaTotal : Option Nat := none
  otaError : Option Nat := none
  deriving DecidableEq

/-- What an update raises: `ControlStateParseError(message)`, or the `ValueError` of an integer with
too many digits. -/
inductive ControlStateError where
  | parse (message : Text)
  | value
  deriving DecidableEq

/-- An update of the state that may fail. -/
abbrev Update := FirmwareControlState → Except ControlStateError FirmwareControlState

/-- Raise `ControlStateParseError(message)`. -/
def parseError {α : Type} (message : Text) : Except ControlStateError α := .error (.parse message)

def maximumUnsignedValue : Nat := 2 ^ 64 - 1

/-- `_unsigned`. -/
def unsigned (value fieldName : Text) : Except ControlStateError Nat :=
  if !isDecimal value then parseError (fieldName ++ " must be unsigned decimal".toList)
  else
    match parseInt 10 value with
    | none => .error .value
    | some parsed =>
      if parsed > maximumUnsignedValue then parseError (fieldName ++ " exceeds uint64".toList)
      else .ok parsed.toNat

/-- `_boolean`. -/
def boolean (value fieldName : Text) : Except ControlStateError Bool :=
  if value = "0".toList then .ok false
  else if value = "1".toList then .ok true
  else parseError (fieldName ++ " must be 0 or 1".toList)

/-- The characters of a key. -/
def isKeyChar (c : Char) : Bool := ('A' ≤ c && c ≤ 'Z') || c == '_'

/-- The match of `([A-Z_]+)=([^,]+)` in a text without commas; `key` is the run of key characters
before the text, last one first. -/
def keyValue (key : Text) : Text → Option (Text × Text)
  | [] => none
  | c :: cs =>
    if isKeyChar c then keyValue (c :: key) cs
    else if c = '=' ∧ key ≠ [] ∧ cs ≠ [] then some (key.reverse, cs)
    else keyValue [] cs

/-- All matches of the pattern. No match has a comma in it, so they are those of the parts between
commas, one each at most. -/
def keyValueMatches (content : Text) : List (Text × Text) :=
  (splitOn ',' content).filterMap (keyValue [])

/-- `_key_values`, the last value first. -/
def keyValues (content : Text) : Except ControlStateError (List (Text × Text)) :=
  (keyValueMatches content).foldlM (fun values (key, value) =>
    if (values.lookup key).isSome then
      parseError ("duplicate control field: ".toList ++ key)
    else .ok ((key, value) :: values)) []

/-- `uuid.UUID(text)`; `none` is its `ValueError`. -/
def Uuid.ofText (text : Text) : Option Uuid :=
  let hex := removeAll (removeAll text "urn:".toList) "uuid:".toList
  let hex := removeAll (stripBy (fun c => c == '\x7b' || c == '\x7d') hex) "-".toList
  if hex.length ≠ 32 then none
  else
    match parseInt 16 hex with
    | some (.ofNat n) => some (BitVec.ofNat 128 n)
    | _ => none

/-- A wire name with the field it sets. -/
abbrev IntegerField := String × (Nat → FirmwareControlState → FirmwareControlState)

/-- The loop over `integer_fields`. -/
def setIntegers (values : List (Text × Text)) : List IntegerField → Update
  | [], s => .ok s
  | (name, set) :: fields, s =>
    match values.lookup name.toList with
    | none => setIntegers values fields s
    | some value => do
      let n ← unsigned value name.toList
      setIntegers values fields (set n s)

/-- A field that is set to the text of its value. -/
def setText (values : List (Text × Text)) (name : String)
    (set : Text → FirmwareControlState → FirmwareControlState) : Update := fun s =>
  match values.lookup name.toList with
  | none => .ok s
  | some value => .ok (set value s)

/-- A field that is 0 or 1. -/
def setBoolean (values : List (Text × Text)) (name : String)
    (set : Bool → FirmwareControlState → FirmwareControlState) : Update := fun s =>
  match values.lookup name.toList with
  | none => .ok s
  | some value => do return set (← boolean value name.toList) s

/-- `_parse_uuid`. -/
def parseUuid (content : Text) : Update := fun s =>
  match splitOn ',' content with
  | [] => .ok s
  | first :: rest =>
    match Uuid.ofText first with
    | none => parseError "invalid UUID response".toList
    | some uuid =>
      let s := { s with deviceUuid := some uuid }
      if rest = [] then .ok s
      else do
        let values ← keyValues (",".toList.intercalate rest)
        setText values "SOURCE" (fun v s => { s with uuidSource := some v }) s

/-- `_parse_sd`. -/
def parseSd (values : List (Text × Text)) : Update := fun s => do
  let s ← setIntegers values
    [("USED", fun n s => { s with sdUsed := some n }),
      ("CAPACITY", fun n s => { s with sdCapacity := some n }),
      ("PENDING_FRAMES", fun n s => { s with sdPendingFrames := some n }),
      ("RETAINED_CHUNKS", fun n s => { s with sdRetainedChunks := some n }),
      ("RETAINED_FRAMES", fun n s => { s with sdRetainedFrames := some n }),
      ("OVERWRITTEN_CHUNKS", fun n s => { s with sdOverwrittenChunks := some n }),
      ("OVERWRITTEN_FRAMES", fun n s => { s with sdOverwrittenFrames := some n })] s
  let s ← setBoolean values "READY" (fun b s => { s with sdReady := some b }) s
  setBoolean values "FORMAT_REQUIRED" (fun b s => { s with sdFormatRequired := some b }) s

/-- `_parse_export_status`. -/
def parseExportStatus (values : List (Text × Text)) : Update := fun s => do
  let s ← setText values "TARGET" (fun v s => { s with exportTarget := some v }) s
  setIntegers values
    [("CHUNK", fun n s => { s with exportChunk := some n }),
      ("FRAME", fun n s => { s with exportFrame := some n })] s

/-- `_parse_live`. -/
def parseLive (values : List (Text × Text)) : Update := fun s => do
  let s ← setText values "TARGET" (fun v s => { s with livestreamTarget := some v }) s
  setIntegers values
    [("DROPS_IIS", fun n s => { s with liveDropsIis := some n }),
      ("DROPS_JY", fun n s => { s with liveDropsJy := some n }),
      ("LAST_ROUTED_SEQUENCE", fun n s => { s with liveLastRoutedSequence := some n }),
      ("LAST_COMPLETED_SEQUENCE", fun n s => { s with liveLastCompletedSequence := some n })] s

/-- `_parse_diag`. -/
def parseDiag (values : List (Text × Text)) : Update :=
  setIntegers values
    [("POOL_FAIL", fun n s => { s with diagPoolFail := some n }),
      ("INGRESS_DROP", fun n s => { s with diagIngressDrop := some n }),
      ("NOSTORE_DROP", fun n s => { s with diagNostoreDrop := some n }),
      ("POOL_MIN", fun n s => { s with diagPoolMin := some n }),
      ("INGRESS_PEAK", fun n s => { s with diagIngressPeak := some n }),
      ("SD_STALL_MS", fun n s => { s with diagSdStallMs := some n }),
      ("CDC_LIVE", fun n s => { s with diagCdcLive := some n }),
      ("CDC_CTRL", fun n s => { s with diagCdcCtrl := some n }),
      ("CDC_EXPORT", fun n s => { s with diagCdcExport := some n })]

/-- `_parse_ota`. -/
def parseOta (values : List (Text × Text)) : Update := fun s => do
  let s ← setText values "STATE" (fun v s => { s with otaState := some v }) s
  setIntegers values
    [("RECEIVED", fun n s => { s with otaReceived := some n }),
      ("TOTAL", fun n s => { s with otaTotal := some n }),
      ("ERROR", fun n s => { s with otaError := some n })] s

/-- `_parse_export_event`. -/
def parseExportEvent (line : Text) : Update := fun s =>
  if startsWith line "EXPORT_BEGIN:".toList then
    .ok { s with
      exportPhase := some "IN_PROGRESS".toList
      exportTarget := some (removePrefix line "EXPORT_BEGIN:".toList) }
  else if line = "EXPORT_EMPTY".toList then .ok { s with exportPhase := some "EMPTY".toList }
  else if line = "EXPORT_ABORTED".toList then .ok { s with exportPhase := some "ABORTED".toList }
  else if startsWith line "EXPORT_END:".toList then do
    let values ← keyValues (removePrefix line "EXPORT_END:".toList)
    setIntegers values
      [("CHUNKS", fun n s => { s with exportChunks := some n }),
        ("FRAMES", fun n s => { s with exportFrames := some n })]
      { s with exportPhase := some "COMPLETE".toList }
  else .ok s

/-- The sections that start with their name and a colon, in the order in which they are tried. -/
def sections : List (String × (Text → Update)) :=
  [("+STATE:", fun v s => .ok { s with acquisitionState := some v }),
    ("+BAUD:", fun v s => do return { s with uartBaud := some (← unsigned v "BAUD".toList) }),
    ("+UUID:", parseUuid),
    ("+SD:", fun v s => do parseSd (← keyValues v) s),
    ("+EXPORT:", fun v s => do parseExportStatus (← keyValues v) s),
    ("+LIVE:", fun v s => do parseLive (← keyValues v) s),
    ("+LIVESTREAM:", fun v s => .ok { s with livestreamTarget := some v }),
    ("+DIAG:", fun v s => do parseDiag (← keyValues v) s),
    ("+STOP_REASON:", fun v s => .ok { s with stopReason := some v }),
    ("+OTA:", fun v s => do parseOta (← keyValues v) s)]

/-- `_parse_line_into`. -/
def parseLineInto (line : Text) : Update :=
  match sections.find? fun sec => startsWith line sec.1.toList with
  | some (name, update) => update (removePrefix line name.toList)
  | none => parseExportEvent line

/-- `_section_name`. -/
def sectionName (line : Text) : Option Text :=
  match line, splitOnce ':' line with
  | '+' :: _, some (name, _) => some name
  | _, _ => if startsWith line "EXPORT_".toList then some "EXPORT_EVENT".toList else none

/-- One pass of the loop of `updated_from_cli`: the state, and the sections seen. -/
def updateLine (acc : FirmwareControlState × List Text) (rawLine : Text) :
    Except ControlStateError (FirmwareControlState × List Text) :=
  let line := strip rawLine
  if line.isEmpty ∨ line = "OK".toList ∨ line = "ERROR".toList then .ok acc
  else
    match sectionName line with
    | none => do return (← parseLineInto line acc.1, acc.2)
    | some name =>
      if name ∈ acc.2 then parseError ("duplicate control section: ".toList ++ name)
      else do return (← parseLineInto line acc.1, name :: acc.2)

/-- Some line of the reply is an export event. -/
def hasExportLine (response : Text) : Bool :=
  (splitLines response).any fun line => startsWith (strip line) "EXPORT_".toList

/-- `updated_from_cli`. -/
def FirmwareControlState.updatedFromCli (self : FirmwareControlState) (response : Text) :
    Except ControlStateError FirmwareControlState := do
  let (state, _) ← (splitLines response).foldlM updateLine (self, [])
  if hasExportLine response then
    return { state with exportRevision := self.exportRevision + 1 }
  else return state

/-- A reply with a state, an SD and an OTA section. -/
example : FirmwareControlState.updatedFromCli {}
    "+STATE:IDLE\r\n+SD:USED=5,READY=1\r\n+OTA:STATE=OFF\r\nOK\r\n".toList =
      .ok {
        acquisitionState := some "IDLE".toList
        sdUsed := some 5
        sdReady := some true
        otaState := some "OFF".toList } := by
  decide +kernel

end SensorHost.Protocol
