import SensorHost.Lib.Numeral

/-!
# OTA packages

Model of `ota/package.py`: a package is a 512-byte manifest block followed by the application image.
`validatePackage` is every check made before an upload, and `packOta` builds a package.

A check that fails raises with its own message, and `requirePackage_ok` and `requirePackage_bind`
are the two ways to go through a sequence of checks in a proof. `Checked` and `Valid` collect what
has been checked, for a block and for a package. The versions that `version_value` takes are an
inductive type with its three forms.
-/

namespace SensorHost.Ota
open SensorHost.Lib

/-- `OTA1`. -/
def manifestMagic : Bytes := [0x4F, 0x54, 0x41, 0x31]

@[simp] def manifestFormatVersion : Nat := 1
@[simp] def manifestHeaderSize : Nat := 80
@[simp] def manifestBlockSize : Nat := 512
@[simp] def manifestCrcOffset : Nat := 508
@[simp] def manifestHeaderReservedOffset : Nat := 0x48
@[simp] def mcuDeviceId : Nat := 0x413
@[simp] def protocolVersion : Nat := 1
@[simp] def packageIdSize : Nat := 12
@[simp] def appFlashStart : Nat := 0x08010000
@[simp] def appFlashSize : Nat := 0x08060000 - appFlashStart
@[simp] def minAppImageSize : Nat := 8

/-- `F407VE-JY-I3DWB` and a zero byte. -/
def targetId : Bytes := asciiBytes "F407VE-JY-I3DWB".toList ++ [0]

@[simp] def statePackage : Nat := 0
@[simp] def stateApplied : Nat := 4

/-- `_STATE_NAMES.get(state, str(state))`. -/
def stateName : Nat → Text
  | 0 => "PACKAGE".toList
  | 1 => "RECEIVING".toList
  | 2 => "READY".toList
  | 3 => "INSTALLING".toList
  | 4 => "APPLIED".toList
  | state => renderNat state

/-- `OtaPackageError`, with its message. -/
structure OtaPackageError where
  message : Text
  deriving DecidableEq

/-- Raise `OtaPackageError(message)`. -/
def packageError {α : Type} (message : String) : Except OtaPackageError α :=
  .error ⟨message.toList⟩

/-- Go on only if the check holds. -/
def requirePackage (check : Bool) (message : String) : Except OtaPackageError Unit :=
  if check then .ok () else packageError message

/-- The decoded fields of a manifest block. -/
structure Manifest where
  generation : Nat
  state : Nat
  stateName : Text
  targetId : Bytes
  deviceId : Nat
  minimumBootloaderVersion : Nat
  appVersion : Nat
  appAddress : Nat
  imageSize : Nat
  imageCrc32 : Nat
  protocolVersion : Nat
  flags : Nat
  packageId : Bytes
  deriving DecidableEq

/-- The fields of a block, before any check. -/
def Manifest.unpack (block : Bytes) : Manifest :=
  { generation := leField block 8 4
    state := leField block 12 4
    stateName := SensorHost.Ota.stateName (leField block 12 4)
    targetId := (block.take 32).drop 16
    deviceId := leField block 32 4
    minimumBootloaderVersion := leField block 36 4
    appVersion := leField block 40 4
    appAddress := leField block 44 4
    imageSize := leField block 48 4
    imageCrc32 := leField block 52 4
    protocolVersion := leField block 56 2
    flags := leField block 58 2
    packageId := (block.take 72).drop 60 }

variable (crc32 : Bytes → UInt32)

/-- `parse_manifest`. -/
def parseManifest (block : Bytes) : Except OtaPackageError Manifest := do
  requirePackage (block.length = manifestBlockSize) "manifest block must be 512 bytes"
  requirePackage (block.take 4 = manifestMagic) "manifest magic is invalid"
  requirePackage (leField block 4 2 = manifestFormatVersion) "manifest format version is invalid"
  requirePackage (leField block 6 2 = manifestHeaderSize) "manifest header size is invalid"
  requirePackage
    (leField block manifestCrcOffset 4 = (crc32 (block.take manifestCrcOffset)).toNat)
    "manifest CRC is invalid"
  requirePackage
    (((block.take manifestCrcOffset).drop manifestHeaderReservedOffset).all (· == 0))
    "manifest reserved bytes must be zero"
  let manifest := Manifest.unpack block
  requirePackage (manifest.targetId = targetId) "manifest target ID is invalid"
  requirePackage (manifest.deviceId = mcuDeviceId) "manifest device ID is invalid"
  requirePackage (manifest.appAddress = appFlashStart) "manifest application address is invalid"
  requirePackage (minAppImageSize ≤ manifest.imageSize && manifest.imageSize ≤ appFlashSize)
    "manifest image size is invalid"
  requirePackage (manifest.protocolVersion = protocolVersion && manifest.flags = 0)
    "manifest protocol fields are invalid"
  requirePackage (statePackage ≤ manifest.state && manifest.state ≤ stateApplied)
    "manifest state is invalid"
  return manifest

/-- `validate_package`. -/
def validatePackage (package : Bytes) : Except OtaPackageError Manifest := do
  requirePackage (manifestBlockSize ≤ package.length) "OTA package is truncated"
  let manifest ← parseManifest crc32 (package.take manifestBlockSize)
  if manifest.state ≠ statePackage then
    throw ⟨"OTA package header is not in PACKAGE state (state=".toList ++ manifest.stateName ++
      ")".toList⟩
  requirePackage (manifest.targetId = targetId) "OTA package target does not match the device"
  let image := package.drop manifestBlockSize
  requirePackage (image.length = manifest.imageSize)
    "OTA package image length does not match manifest"
  requirePackage ((crc32 image).toNat = manifest.imageCrc32) "OTA package image CRC is invalid"
  return manifest

/-- `format_version`. -/
def formatVersion (appVersion : Nat) : Text :=
  renderNat (appVersion / 2 ^ 24 % 2 ^ 8) ++ ".".toList ++
    renderNat (appVersion / 2 ^ 16 % 2 ^ 8) ++ ".".toList ++ renderNat (appVersion % 2 ^ 16)

/-- `format_crc`. -/
def formatCrc (imageCrc32 : Nat) : Text := renderHex8 (imageCrc32 % 2 ^ 32)

/-- `OtaPackage`. -/
structure OtaPackage where
  data : Bytes
  manifest : Manifest

/-- `version_text`. -/
def OtaPackage.versionText (p : OtaPackage) : Text := formatVersion p.manifest.appVersion

/-- `crc_text`. -/
def OtaPackage.crcText (p : OtaPackage) : Text := formatCrc p.manifest.imageCrc32

/-- `Path(name).suffix.lower() == ".ota"`. -/
def isOtaName (name : Text) : Bool :=
  4 < name.length &&
    ((name.drop (name.length - 4)).map Char.toLower == ".ota".toList)

/-- `load_package` of a file with this name; `content` is what reading it gives. -/
def loadPackage (name : Text) (content : Except Text Bytes) : Except OtaPackageError OtaPackage := do
  requirePackage (isOtaName name) "uploader accepts only .ota package files"
  match content with
  | .error message => throw ⟨"cannot read OTA package: ".toList ++ message⟩
  | .ok data =>
    let manifest ← validatePackage crc32 data
    return { data, manifest }

/-- What `version_value` accepts: an integer, a text, or a sequence of fields. -/
inductive Version where
  | int (value : Int)
  | text (value : Text)
  | fields (value : List Int)

/-- The last part of `version_value`: three fields in range. -/
def versionFields : List Int → Except OtaPackageError Nat
  | [major, minor, patch] => do
    requirePackage (0 ≤ major && major ≤ 0xFF) "major version exceeds 8 bits"
    requirePackage (0 ≤ minor && minor ≤ 0xFF) "minor version exceeds 8 bits"
    requirePackage (0 ≤ patch && patch ≤ 0xFFFF) "patch version exceeds 16 bits"
    return (major * 2 ^ 24 + minor * 2 ^ 16 + patch).toNat
  | _ => packageError "version must contain major, minor and patch"

/-- `version_value`. -/
def versionValue : Version → Except OtaPackageError Nat
  | .int value => do
    requirePackage (0 ≤ value && value ≤ 0xFFFFFFFF) "version must fit in 32 bits"
    return value.toNat
  | .text value => do
    let parts := splitOn '.' value
    requirePackage (parts.length = 3) "version must be major.minor.patch"
    match parts.mapM (parseInt 0) with
    | some fields => versionFields fields
    | none => packageError "version must contain decimal fields"
  | .fields value => versionFields value

/-- The manifest block up to its CRC. -/
def manifestBody (image : Bytes) (appVersion minimumBootloaderVersion generation state
    imageCrc32 : Nat) (packageId : Bytes) : Bytes :=
  manifestMagic ++ leBytes 2 manifestFormatVersion ++ leBytes 2 manifestHeaderSize ++
    leBytes 4 generation ++ leBytes 4 state ++ targetId ++ leBytes 4 mcuDeviceId ++
    leBytes 4 minimumBootloaderVersion ++ leBytes 4 appVersion ++ leBytes 4 appFlashStart ++
    leBytes 4 image.length ++ leBytes 4 imageCrc32 ++ leBytes 2 protocolVersion ++ leBytes 2 0 ++
    packageId ++ List.replicate (manifestCrcOffset - manifestHeaderReservedOffset) 0

/-- `pack_manifest`, with the package ID given and the optional arguments at their defaults. -/
def packManifest (image : Bytes) (appVersion minimumBootloaderVersion : Version)
    (generation state : Int) (packageId : Bytes) : Except OtaPackageError Bytes := do
  requirePackage (minAppImageSize ≤ image.length) "image size is below the minimum"
  requirePackage (image.length ≤ appFlashSize) "image size exceeds the application region"
  requirePackage (0 ≤ generation && generation ≤ 0xFFFFFFFF) "generation must fit in 32 bits"
  requirePackage (statePackage ≤ state && state ≤ stateApplied) "manifest state is invalid"
  requirePackage (packageId.length = packageIdSize) "package ID must be 12 bytes"
  let minimum ← versionValue minimumBootloaderVersion
  let app ← versionValue appVersion
  let body := manifestBody image app minimum generation.toNat state.toNat (crc32 image).toNat
    packageId
  return body ++ leBytes 4 (crc32 body).toNat

/-- `pack_ota`, with the package ID given. -/
def packOta (image : Bytes) (appVersion minimumBootloaderVersion : Version) (generation : Int)
    (packageId : Bytes) : Except OtaPackageError Bytes := do
  let header ← packManifest crc32 image appVersion minimumBootloaderVersion generation
    statePackage packageId
  return header ++ image

/-- What comes behind a check has passed it. -/
lemma requirePackage_ok {check : Bool} {message : String} {α : Type}
    {rest : Unit → Except OtaPackageError α} {a : α}
    (h : (requirePackage check message >>= rest) = .ok a) : check = true ∧ rest () = .ok a := by
  cases check with
  | true => exact ⟨rfl, h⟩
  | false => cases h

variable {crc32}

/-- What `parseManifest` has checked. -/
structure Checked (crc32 : Bytes → UInt32) (block : Bytes) : Prop where
  length : block.length = manifestBlockSize
  magic : block.take 4 = manifestMagic
  format : leField block 4 2 = manifestFormatVersion
  header : leField block 6 2 = manifestHeaderSize
  crc : leField block manifestCrcOffset 4 = (crc32 (block.take manifestCrcOffset)).toNat
  reserved :
    ((block.take manifestCrcOffset).drop manifestHeaderReservedOffset).all (· == 0) = true
  target : (Manifest.unpack block).targetId = targetId
  device : (Manifest.unpack block).deviceId = mcuDeviceId
  address : (Manifest.unpack block).appAddress = appFlashStart
  size_ge : minAppImageSize ≤ (Manifest.unpack block).imageSize
  size_le : (Manifest.unpack block).imageSize ≤ appFlashSize
  protocol : (Manifest.unpack block).protocolVersion = protocolVersion
  flags : (Manifest.unpack block).flags = 0
  state_le : (Manifest.unpack block).state ≤ stateApplied

/-- A check that holds goes on to what comes behind it. -/
lemma requirePackage_bind {check : Bool} (h : check = true) (message : String) {α : Type}
    (rest : Unit → Except OtaPackageError α) : (requirePackage check message >>= rest) = rest () := by
  rw [h]
  rfl

/-- A manifest that is parsed has passed every check, and is what stands in the block. -/
lemma parseManifest_ok {block : Bytes} {manifest : Manifest}
    (h : parseManifest crc32 block = .ok manifest) :
    Checked crc32 block ∧ manifest = Manifest.unpack block := by
  obtain ⟨hlength, h⟩ := requirePackage_ok h
  obtain ⟨hmagic, h⟩ := requirePackage_ok h
  obtain ⟨hformat, h⟩ := requirePackage_ok h
  obtain ⟨hheader, h⟩ := requirePackage_ok h
  obtain ⟨hcrc, h⟩ := requirePackage_ok h
  obtain ⟨hreserved, h⟩ := requirePackage_ok h
  obtain ⟨htarget, h⟩ := requirePackage_ok h
  obtain ⟨hdevice, h⟩ := requirePackage_ok h
  obtain ⟨haddress, h⟩ := requirePackage_ok h
  obtain ⟨hsize, h⟩ := requirePackage_ok h
  obtain ⟨hprotocol, h⟩ := requirePackage_ok h
  obtain ⟨hstate, h⟩ := requirePackage_ok h
  rw [Bool.and_eq_true] at hsize hprotocol hstate
  cases h
  exact ⟨⟨of_decide_eq_true hlength, of_decide_eq_true hmagic, of_decide_eq_true hformat,
    of_decide_eq_true hheader, of_decide_eq_true hcrc, hreserved, of_decide_eq_true htarget,
    of_decide_eq_true hdevice, of_decide_eq_true haddress, of_decide_eq_true hsize.1,
    of_decide_eq_true hsize.2, of_decide_eq_true hprotocol.1, of_decide_eq_true hprotocol.2,
    of_decide_eq_true hstate.2⟩, rfl⟩

/-- A block that passes every check is parsed. -/
lemma Checked.parseManifest_eq {block : Bytes} (h : Checked crc32 block) :
    parseManifest crc32 block = .ok (Manifest.unpack block) := by
  have hsize : (decide (minAppImageSize ≤ (Manifest.unpack block).imageSize) &&
      decide ((Manifest.unpack block).imageSize ≤ appFlashSize)) = true := by
    rw [Bool.and_eq_true]
    exact ⟨decide_eq_true h.size_ge, decide_eq_true h.size_le⟩
  have hprotocol : (decide ((Manifest.unpack block).protocolVersion = protocolVersion) &&
      decide ((Manifest.unpack block).flags = 0)) = true := by
    rw [Bool.and_eq_true]
    exact ⟨decide_eq_true h.protocol, decide_eq_true h.flags⟩
  have hstate : (decide (statePackage ≤ (Manifest.unpack block).state) &&
      decide ((Manifest.unpack block).state ≤ stateApplied)) = true := by
    rw [Bool.and_eq_true]
    exact ⟨decide_eq_true (Nat.zero_le _), decide_eq_true h.state_le⟩
  unfold parseManifest
  rw [requirePackage_bind (decide_eq_true h.length), requirePackage_bind (decide_eq_true h.magic),
    requirePackage_bind (decide_eq_true h.format), requirePackage_bind (decide_eq_true h.header),
    requirePackage_bind (decide_eq_true h.crc), requirePackage_bind h.reserved]
  dsimp only
  rw [requirePackage_bind (decide_eq_true h.target),
    requirePackage_bind (decide_eq_true h.device), requirePackage_bind (decide_eq_true h.address),
    requirePackage_bind hsize, requirePackage_bind hprotocol, requirePackage_bind hstate]
  rfl

/-- What `validatePackage` has checked. -/
structure Valid (crc32 : Bytes → UInt32) (package : Bytes) : Prop where
  length : manifestBlockSize ≤ package.length
  block : Checked crc32 (package.take manifestBlockSize)
  state : (Manifest.unpack (package.take manifestBlockSize)).state = statePackage
  size : (package.drop manifestBlockSize).length =
    (Manifest.unpack (package.take manifestBlockSize)).imageSize
  crc : (crc32 (package.drop manifestBlockSize)).toNat =
    (Manifest.unpack (package.take manifestBlockSize)).imageCrc32

/-- A package that is validated is valid, and its manifest stands at its front. -/
lemma validatePackage_ok {package : Bytes} {manifest : Manifest}
    (h : validatePackage crc32 package = .ok manifest) :
    Valid crc32 package ∧ manifest = Manifest.unpack (package.take manifestBlockSize) := by
  obtain ⟨hlength, h⟩ := requirePackage_ok h
  cases hm : parseManifest crc32 (package.take manifestBlockSize) with
  | error e =>
    rw [hm] at h
    cases h
  | ok m =>
    obtain ⟨hblock, rfl⟩ := parseManifest_ok hm
    rw [hm] at h
    replace h : (if (Manifest.unpack (package.take manifestBlockSize)).state ≠ statePackage then _
      else _) = Except.ok manifest := h
    split at h
    · cases h
    · rename_i hstate
      obtain ⟨-, h⟩ := requirePackage_ok h
      obtain ⟨hsize, h⟩ := requirePackage_ok h
      obtain ⟨hcrc, h⟩ := requirePackage_ok h
      cases h
      exact ⟨⟨of_decide_eq_true hlength, hblock, not_not.mp hstate, of_decide_eq_true hsize,
        of_decide_eq_true hcrc⟩, rfl⟩

/-- A valid package is validated. -/
lemma Valid.validatePackage_eq {package : Bytes} (h : Valid crc32 package) :
    validatePackage crc32 package = .ok (Manifest.unpack (package.take manifestBlockSize)) := by
  unfold validatePackage
  rw [requirePackage_bind (decide_eq_true h.length), h.block.parseManifest_eq]
  change (if (Manifest.unpack (package.take manifestBlockSize)).state ≠ statePackage then _
    else _) = _
  rw [if_neg (not_not.mpr h.state)]
  change (requirePackage _ _ >>= fun _ => requirePackage _ _ >>= fun _ => requirePackage _ _ >>=
    fun _ => pure _) = _
  rw [requirePackage_bind (decide_eq_true h.block.target),
    requirePackage_bind (decide_eq_true h.size), requirePackage_bind (decide_eq_true h.crc)]
  rfl

/-- The sizes of a valid package. -/
lemma validatePackage_length {package : Bytes} {manifest : Manifest}
    (h : validatePackage crc32 package = .ok manifest) :
    manifestBlockSize ≤ package.length ∧
      (package.drop manifestBlockSize).length = manifest.imageSize ∧
      minAppImageSize ≤ manifest.imageSize ∧ manifest.imageSize ≤ appFlashSize ∧
      manifest.targetId = targetId := by
  obtain ⟨hvalid, rfl⟩ := validatePackage_ok h
  exact ⟨hvalid.length, hvalid.size, hvalid.block.size_ge, hvalid.block.size_le,
    hvalid.block.target⟩

end SensorHost.Ota
